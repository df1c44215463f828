import ClientRegistration.Proofs.Registry
namespace ClientRegistration

variable {σ : Type}

theorem Value.endpoint_beq_endpoint (e e' : Endpoint) :
    (Value.endpoint e == Value.endpoint e') = decide (e = e') := by
  change sameItem (.endpoint e) (.endpoint e') = _
  rw [sameItem, equals]
  · simp [isDocumentNaN, leafEquals, number?]
  all_goals simp

namespace RequestFilter

/-- The endpoints which a filter declares, if all its types are valid. -/
def endpoints (filter : RequestFilter σ) : Except Fault (List Endpoint) := do
  (← filter.declared.items).mapM Endpoint.ofValue

def concerns (wanted : Endpoint) (filter : RequestFilter σ) : Bool :=
  match filter.endpoints with
  | .ok endpoints => endpoints.any fun e => e = .all || wanted = e
  | .error _ => false

theorem anyAccepted_eq {items : List Value} {endpoints : List Endpoint}
    (valid : items.mapM Endpoint.ofValue = .ok endpoints) (accepts : Endpoint → Bool) :
    anyAccepted accepts items = .ok (endpoints.any accepts) := by
  induction items generalizing endpoints with
  | nil =>
    cases valid
    rfl
  | cons item rest ih =>
    rw [List.mapM_cons] at valid
    obtain ⟨e, he, valid⟩ := bind_eq_ok_iff.1 valid
    obtain ⟨others, hothers, heq⟩ := bind_eq_ok_iff.1 valid
    cases heq
    rw [anyAccepted, he, ok_bind, ih hothers, List.any_cons]
    cases accepts e <;> rfl

theorem isAccepted_eq {filter : RequestFilter σ} {endpoints : List Endpoint}
    (valid : filter.endpoints = .ok endpoints) (accepts : Endpoint → Bool) :
    filter.isAccepted accepts = .ok (endpoints.any accepts) := by
  obtain ⟨items, hitems, hendpoints⟩ := bind_eq_ok_iff.1 valid
  rw [isAccepted, hitems, ok_bind, anyAccepted_eq hendpoints]

end RequestFilter

namespace Registry

/-- Whether all types are valid which the filters of a list declare. The types of a mapping are, and
what its filters declare does not count. -/
def Valid : Registry σ → Prop
  | .listed filters => ∀ filter ∈ filters, ∃ endpoints, filter.endpoints = .ok endpoints
  | .keyed _ => True

/-- The filters for an endpoint, in the order in which they are called. -/
def selected (wanted : Endpoint) : Registry σ → List (RequestFilter σ)
  | .listed filters => filters.filter (·.concerns wanted)
  | .keyed groups =>
    (groups.get? .all).getD [] ++ if wanted = .all then [] else (groups.get? wanted).getD []

theorem selectListed_eq (wanted : Endpoint) {filters : List (RequestFilter σ)}
    (valid : Valid (.listed filters)) :
    selectListed (fun e => e = .all || Value.endpoint wanted == .endpoint e) filters =
      .ok (filters.filter (·.concerns wanted)) := by
  induction filters with
  | nil => rfl
  | cons filter rest ih =>
    obtain ⟨endpoints, hendpoints⟩ := valid filter (List.mem_cons_self ..)
    have hrest := ih fun other hmem => valid other (List.mem_cons_of_mem _ hmem)
    have hconcerns : filter.concerns wanted =
        endpoints.any fun e => e = .all || Value.endpoint wanted == .endpoint e := by
      simp only [RequestFilter.concerns, hendpoints, Value.endpoint_beq_endpoint]
    rw [selectListed, RequestFilter.isAccepted_eq hendpoints, ok_bind, hrest, ok_bind,
      List.filter_cons, hconcerns]
    rfl

theorem get?_endpoints (wanted : Endpoint) (groups : Fields Endpoint (List (RequestFilter σ))) :
    Fields.get? (.endpoint wanted)
        (groups.map fun (e, filters) => (Value.endpoint e, filters)) = groups.get? wanted := by
  induction groups with
  | nil => rfl
  | cons group rest ih =>
    simp only [List.map_cons, Fields.get?, Value.endpoint_beq_endpoint, ih]
    rfl

/-- A registry whose types are valid selects these filters, whatever they do. -/
theorem matching_eq_selected {registry : Registry σ} (valid : registry.Valid) (wanted : Endpoint) :
    registry.matching wanted = .ok (registry.selected wanted) := by
  cases registry with
  | listed filters => exact selectListed_eq wanted valid
  | keyed groups =>
    have hmatching : matching (.keyed groups) wanted = .ok (selectKeyed (.endpoint .all)
        (.endpoint wanted) (Value.endpoint wanted == .endpoint .all)
        (groups.map fun (e, filters) => (Value.endpoint e, filters))) := rfl
    rw [hmatching, selectKeyed, get?_endpoints, get?_endpoints, Value.endpoint_beq_endpoint]
    simp only [selected, decide_eq_true_eq]

end Registry

end ClientRegistration
