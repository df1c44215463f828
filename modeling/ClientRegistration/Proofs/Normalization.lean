import ClientRegistration.Proofs.Grouping
namespace ClientRegistration

variable {σ : Type}

namespace FilterSet

/-- The lists of a mapping whose keys stand for an endpoint, in their order. -/
def listsFor (wanted : Endpoint) (entries : Fields Value (List (RequestFilter σ))) :
    List (List (RequestFilter σ)) :=
  (entries.filter fun entry => (Endpoint.ofValue entry.1).toOption = some wanted).map (·.2)

theorem listsFor_cons {key : Value} {e : Endpoint} (hkey : Endpoint.ofValue key = .ok e)
    (wanted : Endpoint) (filters : List (RequestFilter σ))
    (rest : Fields Value (List (RequestFilter σ))) :
    listsFor wanted ((key, filters) :: rest) =
      if wanted = e then filters :: listsFor wanted rest else listsFor wanted rest := by
  rw [listsFor, List.filter_cons, hkey]
  by_cases hwanted : wanted = e
  · rw [if_pos hwanted, if_pos (by simp [Except.toOption, hwanted]), List.map_cons]
    rfl
  · rw [if_neg hwanted, if_neg (by simp [Except.toOption, Ne.symm hwanted])]
    rfl

end FilterSet

theorem putGroups_buckets {entries : Fields Value (List (RequestFilter σ))}
    (valid : ∀ entry ∈ entries, ∃ e, Endpoint.ofValue entry.1 = .ok e)
    (groups : Fields Endpoint (List (RequestFilter σ))) :
    ∃ result, putGroups groups entries = .ok result ∧ ∀ wanted,
      bucket wanted result =
        (FilterSet.listsFor wanted entries).getLast?.getD (bucket wanted groups) := by
  induction entries generalizing groups with
  | nil => exact ⟨groups, rfl, fun wanted => rfl⟩
  | cons entry rest ih =>
    obtain ⟨key, filters⟩ := entry
    obtain ⟨e, he⟩ := valid _ (List.mem_cons_self ..)
    obtain ⟨result, hresult, hbuckets⟩ :=
      ih (fun other hmem => valid other (List.mem_cons_of_mem _ hmem)) (groups.put e filters)
    refine ⟨result, ?_, fun wanted => ?_⟩
    · rw [putGroups, he, ok_bind, hresult]
    · rw [hbuckets, bucket_put, FilterSet.listsFor_cons he]
      split
      · rw [List.getLast?_cons, Option.getD_some]
      · rfl

theorem getLast?_eq_flatten_iff {α : Type} (lists : List (List α)) :
    lists.getLast?.getD [] = lists.flatten ↔ lists.dropLast.flatten = [] := by
  rcases List.eq_nil_or_concat lists with rfl | ⟨init, last, rfl⟩
  · simp
  · simp [List.concat_eq_append]

namespace Registry

def group (wanted : Endpoint) : Registry σ → List (RequestFilter σ)
  | .listed _ => []
  | .keyed groups => bucket wanted groups

/-- A registry handed on to a new client so many times. -/
def handedOn : (times : Nat) → Registry σ → Except Fault (Registry σ)
  | 0, registry => .ok registry
  | times + 1, registry => do handedOn times (← registry.toFilterSet.normalize)

theorem Normal.handedOn_eq {registry : Registry σ} (h : registry.Normal) (times : Nat) :
    registry.handedOn times = .ok registry := by
  induction times with
  | zero => rfl
  | succ times ih => rw [handedOn, h, ok_bind, ih]

end Registry

namespace FilterSet

theorem exists_normalize_of_keyed {entries : Fields Value (List (RequestFilter σ))}
    (valid : ∀ entry ∈ entries, ∃ e, Endpoint.ofValue entry.1 = .ok e) :
    ∃ registry, (FilterSet.keyed entries).normalize = .ok registry ∧
      (∀ wanted, registry.group wanted = (listsFor wanted entries).getLast?.getD []) ∧
      ∀ wanted, registry.matching wanted = .ok (registry.group .all ++
        if wanted = .all then [] else registry.group wanted) := by
  obtain ⟨groups, hgroups, hbuckets⟩ := putGroups_buckets valid []
  cases entries with
  | nil =>
    refine ⟨.listed [], rfl, fun wanted => rfl, fun wanted => ?_⟩
    rw [Registry.matching_of_isEmpty rfl]
    split <;> rfl
  | cons entry rest =>
    refine ⟨.keyed groups, map_eq_ok_iff.2 ⟨_, hgroups, rfl⟩, hbuckets, fun wanted => ?_⟩
    exact @Registry.matching_eq_selected _ (.keyed groups) trivial wanted

/-- What becomes of a mapping whose keys all stand for endpoints: the group of an endpoint is the
last of the lists for it, which are all kept exactly where those before the last one are empty. -/
theorem normalize_keeps_last_list {entries : Fields Value (List (RequestFilter σ))}
    (valid : ∀ entry ∈ entries, ∃ e, Endpoint.ofValue entry.1 = .ok e) :
    ∃ registry, (FilterSet.keyed entries).normalize = .ok registry ∧
      (∀ wanted, registry.group wanted = (listsFor wanted entries).getLast?.getD []) ∧
      (∀ wanted, registry.group wanted = (listsFor wanted entries).flatten ↔
        (listsFor wanted entries).dropLast.flatten = []) ∧
      (∀ wanted, registry.matching wanted = .ok (registry.group .all ++
        if wanted = .all then [] else registry.group wanted)) ∧
      ∀ times, registry.handedOn times = .ok registry := by
  obtain ⟨registry, hregistry, hgroups, hmatching⟩ := exists_normalize_of_keyed valid
  refine ⟨registry, hregistry, hgroups, fun wanted => ?_, hmatching,
    (normal_of_normalize hregistry).handedOn_eq⟩
  rw [hgroups]
  exact getLast?_eq_flatten_iff _

theorem normalize_keeps_last_list_of_empty_first :
    let filter : RequestFilter Unit :=
      { name := "f", declared := RequestFilter.everyEndpoint
        behaviour := fun _ request context => ⟨(), request, context, none⟩ }
    let entries : Fields Value (List (RequestFilter Unit)) :=
      [(.endpoint .token, []), (.text "all", [filter]), (.text "token", [filter, filter])]
    (∀ entry ∈ entries, ∃ e, Endpoint.ofValue entry.1 = .ok e) ∧
      ∃ registry, (FilterSet.keyed entries).normalize = .ok registry ∧
        registry.matching .token = .ok [filter, filter, filter] ∧
        registry.group .token = (listsFor .token entries).flatten ∧
        ∀ times, registry.handedOn times = .ok registry := by
  intro filter entries
  have valid : ∀ entry ∈ entries, ∃ e, Endpoint.ofValue entry.1 = .ok e := by
    simp only [entries, List.forall_mem_cons]
    exact ⟨⟨.token, rfl⟩, ⟨.all, rfl⟩, ⟨.token, rfl⟩, List.forall_mem_nil _⟩
  obtain ⟨registry, hregistry, hgroups, hkept, hmatching, hhanded⟩ :=
    normalize_keeps_last_list valid
  refine ⟨valid, registry, hregistry, ?_, (hkept .token).2 rfl, hhanded⟩
  rw [hmatching, hgroups, hgroups]
  rfl

/-- An endpoint and its name are two keys of a mapping, and the filter under the first of them is
not called. -/
theorem normalize_loses_filter :
    let first : RequestFilter Unit :=
      { name := "first", declared := RequestFilter.everyEndpoint
        behaviour := fun _ request context => ⟨(), request, context, none⟩ }
    let last : RequestFilter Unit := { first with name := "last" }
    let entries : Fields Value (List (RequestFilter Unit)) :=
      [(.endpoint .clientConfiguration, [first]), (.text "client_configuration", [last])]
    (Value.endpoint .clientConfiguration == .text "client_configuration") = false ∧
      (∀ entry ∈ entries, ∃ e, Endpoint.ofValue entry.1 = .ok e) ∧
      listsFor .clientConfiguration entries = [[first], [last]] ∧
      ∃ registry, (FilterSet.keyed entries).normalize = .ok registry ∧
        registry.group .clientConfiguration ≠ (listsFor .clientConfiguration entries).flatten ∧
        registry.matching .clientConfiguration = .ok [last] ∧ first ∉ [last] := by
  intro first last entries
  have hname : first ≠ last := fun heq =>
    absurd (congrArg RequestFilter.name heq) (show (Text.ofString "first") ≠ "last" by decide)
  have hdiffers :
      (Value.endpoint .clientConfiguration == .text "client_configuration") = false := by
    change Value.sameItem _ _ = false
    simp [Value.sameItem, Value.isDocumentNaN, Value.equals, Value.leafEquals, Value.number?]
  have hmatching := @Registry.matching_eq_selected _
    (.keyed [(.clientConfiguration, [last])]) trivial .clientConfiguration
  refine ⟨hdiffers, ?_, rfl, _, rfl, ?_, hmatching, by simpa using hname⟩
  · simp only [entries, List.forall_mem_cons]
    exact ⟨⟨.clientConfiguration, rfl⟩, ⟨.clientConfiguration, rfl⟩,
      List.forall_mem_nil _⟩
  · intro heq
    exact absurd (congrArg List.length heq) (show (1 : Nat) ≠ 2 by decide)

end FilterSet

end ClientRegistration
