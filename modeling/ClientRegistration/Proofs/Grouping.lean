import ClientRegistration.Proofs.Selection
namespace ClientRegistration

variable {σ : Type}

namespace RequestFilter

def timesDeclared (wanted : Endpoint) (filter : RequestFilter σ) : Nat :=
  match filter.endpoints with
  | .ok endpoints => endpoints.count wanted
  | .error _ => 0

def declares (wanted : Endpoint) (filter : RequestFilter σ) : Bool :=
  0 < filter.timesDeclared wanted

theorem timesDeclared_eq {filter : RequestFilter σ} {endpoints : List Endpoint}
    (valid : filter.endpoints = .ok endpoints) (wanted : Endpoint) :
    filter.timesDeclared wanted = endpoints.count wanted := by
  rw [timesDeclared, valid]

theorem concerns_eq (wanted : Endpoint) (filter : RequestFilter σ) :
    filter.concerns wanted = (filter.declares .all || filter.declares wanted) := by
  rw [concerns, declares, declares, timesDeclared, timesDeclared]
  cases filter.endpoints with
  | error fault => rfl
  | ok endpoints =>
    rw [Bool.eq_iff_iff]
    simp [List.count_pos_iff, and_or_left, exists_or]

end RequestFilter

/-- Filters in their order, each as often as it declares an endpoint. -/
def asDeclared (wanted : Endpoint) (filters : List (RequestFilter σ)) : List (RequestFilter σ) :=
  filters.flatMap fun filter => List.replicate (filter.timesDeclared wanted) filter

theorem mem_asDeclared {wanted : Endpoint} {filters : List (RequestFilter σ)}
    {filter : RequestFilter σ} :
    filter ∈ asDeclared wanted filters ↔ filter ∈ filters ∧ filter.declares wanted = true := by
  simp only [asDeclared, List.mem_flatMap, List.mem_replicate, RequestFilter.declares,
    decide_eq_true_eq, Nat.pos_iff_ne_zero]
  constructor
  · rintro ⟨other, hmem, htimes, rfl⟩
    exact ⟨hmem, htimes⟩
  · rintro ⟨hmem, htimes⟩
    exact ⟨filter, hmem, htimes, rfl⟩

theorem asDeclared_of_le_one {wanted : Endpoint} {filters : List (RequestFilter σ)}
    (once : ∀ filter ∈ filters, filter.timesDeclared wanted ≤ 1) :
    asDeclared wanted filters = filters.filter (·.declares wanted) := by
  induction filters with
  | nil => rfl
  | cons filter rest ih =>
    have hrest := ih fun other hmem => once other (List.mem_cons_of_mem _ hmem)
    rw [asDeclared, List.flatMap_cons, List.filter_cons, ← hrest, RequestFilter.declares]
    rcases Nat.le_one_iff_eq_zero_or_eq_one.1 (once filter (List.mem_cons_self ..)) with h | h
    · rw [h]
      rfl
    · rw [h]
      rfl

def bucket (wanted : Endpoint) (groups : Fields Endpoint (List (RequestFilter σ))) :
    List (RequestFilter σ) :=
  (groups.get? wanted).getD []

theorem bucket_put (wanted e : Endpoint) (filters : List (RequestFilter σ))
    (groups : Fields Endpoint (List (RequestFilter σ))) :
    bucket wanted (groups.put e filters) = if wanted = e then filters else bucket wanted groups := by
  rw [bucket]
  split
  · next heq => rw [heq, Fields.get?_put_self, Option.getD_some]
  · next hne => rw [Fields.get?_put_of_ne hne, bucket]

theorem addDeclared_buckets {items : List Value} {endpoints : List Endpoint}
    (valid : items.mapM Endpoint.ofValue = .ok endpoints) (filter : RequestFilter σ)
    (groups : Fields Endpoint (List (RequestFilter σ))) :
    ∃ result, addDeclared filter groups items = .ok result ∧ ∀ wanted,
      bucket wanted result =
        bucket wanted groups ++ List.replicate (endpoints.count wanted) filter := by
  induction items generalizing groups endpoints with
  | nil =>
    cases valid
    exact ⟨groups, rfl, fun wanted => (List.append_nil _).symm⟩
  | cons item rest ih =>
    rw [List.mapM_cons] at valid
    obtain ⟨e, he, valid⟩ := bind_eq_ok_iff.1 valid
    obtain ⟨others, hothers, heq⟩ := bind_eq_ok_iff.1 valid
    cases heq
    obtain ⟨result, hresult, hbuckets⟩ := ih hothers (groups.put e (bucket e groups ++ [filter]))
    refine ⟨result, ?_, fun wanted => ?_⟩
    · rw [addDeclared, he, ok_bind]
      exact hresult
    · rw [hbuckets, bucket_put, List.count_cons]
      by_cases hwanted : wanted = e
      · subst hwanted
        simp [List.replicate_succ]
      · simp [hwanted, Ne.symm hwanted]

/-- Any number of filters added to groups: what has been in a group stays in front. -/
theorem addAll_buckets {filters : List (RequestFilter σ)}
    (valid : Registry.Valid (.listed filters))
    (groups : Fields Endpoint (List (RequestFilter σ))) :
    ∃ result, addAll groups filters = .ok result ∧ ∀ wanted,
      bucket wanted result = bucket wanted groups ++ asDeclared wanted filters := by
  induction filters generalizing groups with
  | nil => exact ⟨groups, rfl, fun wanted => (List.append_nil _).symm⟩
  | cons filter rest ih =>
    obtain ⟨endpoints, hendpoints⟩ := valid filter (List.mem_cons_self ..)
    obtain ⟨items, hitems, hvalid⟩ := bind_eq_ok_iff.1 hendpoints
    obtain ⟨next, hnext, hadded⟩ := addDeclared_buckets hvalid filter groups
    obtain ⟨result, hresult, hbuckets⟩ :=
      ih (fun other hmem => valid other (List.mem_cons_of_mem _ hmem)) next
    refine ⟨result, ?_, fun wanted => ?_⟩
    · rw [addAll, hitems, ok_bind, hnext, ok_bind, hresult]
    · rw [hbuckets, hadded, ← RequestFilter.timesDeclared_eq hendpoints, List.append_assoc]
      rfl

/-- Where no filter declares more than one of the two endpoints, those for all endpoints come
first. -/
theorem asDeclared_append_of_le_one {wanted : Endpoint} {filters : List (RequestFilter σ)}
    (once : ∀ filter ∈ filters, filter.timesDeclared .all +
      (if wanted = .all then 0 else filter.timesDeclared wanted) ≤ 1) :
    asDeclared .all filters ++ (if wanted = .all then [] else asDeclared wanted filters) =
      (filters.filter (·.concerns wanted)).filter (·.declares .all) ++
        (filters.filter (·.concerns wanted)).filter (!·.declares .all) := by
  have hall : asDeclared .all filters = filters.filter (·.declares .all) :=
    asDeclared_of_le_one fun filter hmem => Nat.le_of_add_right_le (once filter hmem)
  have hfirst : (filters.filter (·.concerns wanted)).filter (·.declares .all) =
      filters.filter (·.declares .all) := by
    rw [List.filter_filter]
    refine List.filter_congr fun filter _ => ?_
    rw [RequestFilter.concerns_eq]
    cases filter.declares .all <;> rfl
  rw [hall, hfirst, List.filter_filter]
  congr 1
  split
  · next heq =>
    subst heq
    symm
    rw [List.filter_eq_nil_iff]
    intro filter _
    rw [RequestFilter.concerns_eq]
    cases filter.declares .all <;> decide
  · next hne =>
    have hwanted (filter : RequestFilter σ) (hmem : filter ∈ filters) :
        filter.timesDeclared .all + filter.timesDeclared wanted ≤ 1 := by
      have h := once filter hmem
      rwa [if_neg hne] at h
    rw [asDeclared_of_le_one fun filter hmem =>
      Nat.le_trans (Nat.le_add_left ..) (hwanted filter hmem)]
    refine List.filter_congr fun filter hmem => ?_
    have h := hwanted filter hmem
    rw [RequestFilter.concerns_eq, RequestFilter.declares, RequestFilter.declares, Bool.eq_iff_iff]
    simp only [Bool.and_eq_true, Bool.or_eq_true, Bool.not_eq_true', decide_eq_true_eq,
      decide_eq_false_iff_not]
    omega

/-- Grouping filters by their types, all of them valid, and leaving them in a list. -/
theorem grouped_agrees_with_listed {filters : List (RequestFilter σ)}
    (valid : ∀ filter ∈ filters, ∃ endpoints, filter.endpoints = .ok endpoints)
    (wanted : Endpoint) :
    ∃ groups grouped listed,
      (FilterSet.listed filters).group = .ok groups ∧
      (Registry.keyed groups).toFilterSet.matching (.endpoint wanted) = .ok grouped ∧
      (FilterSet.listed filters).matching (.endpoint wanted) = .ok listed ∧
      grouped = asDeclared .all filters ++
        (if wanted = .all then [] else asDeclared wanted filters) ∧
      listed = filters.filter (fun filter => filter.declares .all || filter.declares wanted) ∧
      (∀ filter, filter ∈ grouped ↔ filter ∈ listed) ∧
      ((∀ filter ∈ filters, filter.timesDeclared .all +
          (if wanted = .all then 0 else filter.timesDeclared wanted) ≤ 1) →
        grouped.Perm listed ∧
        grouped = listed.filter (·.declares .all) ++ listed.filter (!·.declares .all)) := by
  obtain ⟨groups, hgroups, hbuckets⟩ := addAll_buckets valid []
  have hbucket (e : Endpoint) : (groups.get? e).getD [] = asDeclared e filters := hbuckets e
  have hgrouped := @Registry.matching_eq_selected _ (.keyed groups) trivial wanted
  have hlisted := @Registry.matching_eq_selected _ (.listed filters) valid wanted
  rw [Registry.selected, hbucket, hbucket] at hgrouped
  simp only [← RequestFilter.concerns_eq]
  refine ⟨groups, _, _, hgroups, hgrouped, hlisted, rfl, rfl, fun filter => ?_, fun once => ?_⟩
  · rw [Registry.selected, List.mem_filter, RequestFilter.concerns_eq, List.mem_append,
      mem_asDeclared, Bool.or_eq_true, and_or_left]
    split
    · next heq => simp [heq]
    · rw [mem_asDeclared]
  · have hparts := asDeclared_append_of_le_one once
    refine ⟨?_, hparts⟩
    rw [hparts]
    exact List.filter_append_perm ..

/-- The filter for all endpoints is registered second and selected second from the list, first from
the groups. -/
theorem grouped_agrees_with_listed_of_three :
    let first : RequestFilter Unit :=
      { name := "first", declared := .list [.text "token"]
        behaviour := fun _ request context => ⟨(), request, context, none⟩ }
    let every : RequestFilter Unit := { first with declared := RequestFilter.everyEndpoint }
    let last : RequestFilter Unit :=
      { first with declared := .tuple [.text "jwks", .endpoint .token, .text "jwks"] }
    ∃ groups,
      (FilterSet.listed [first, every, last]).group = .ok groups ∧
      (Registry.keyed groups).toFilterSet.matching (.endpoint .token) =
        .ok [every, first, last] ∧
      (FilterSet.listed [first, every, last]).matching (.endpoint .token) =
        .ok [first, every, last] ∧
      [every, first, last].Perm [first, every, last] := by
  intro first every last
  have valid : ∀ filter ∈ [first, every, last],
      ∃ endpoints, filter.endpoints = .ok endpoints := by
    simp only [List.forall_mem_cons]
    exact ⟨⟨[.token], rfl⟩, ⟨[.all], rfl⟩, ⟨[.jwks, .token, .jwks], rfl⟩,
      List.forall_mem_nil _⟩
  obtain ⟨groups, grouped, listed, hgroups, hgrouped, hlisted, rfl, rfl, -, hperm⟩ :=
    grouped_agrees_with_listed valid .token
  have once : ∀ filter ∈ [first, every, last], filter.timesDeclared .all +
      (if Endpoint.token = .all then 0 else filter.timesDeclared .token) ≤ 1 := by
    simp only [List.forall_mem_cons]
    exact ⟨Nat.le_refl 1, Nat.le_refl 1, Nat.le_refl 1, List.forall_mem_nil _⟩
  exact ⟨groups, hgroups, hgrouped, hlisted, (hperm once).1⟩

end ClientRegistration
