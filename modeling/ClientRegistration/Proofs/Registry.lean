import ClientRegistration.Filter.Registry
import ClientRegistration.Proofs.Fields
import ClientRegistration.Proofs.Result
namespace ClientRegistration

variable {σ : Type}

/-- A registry which a new client takes over as it is. -/
def Registry.Normal (registry : Registry σ) : Prop := registry.toFilterSet.normalize = .ok registry

theorem nodup_keys_putGroups {groups result : Fields Endpoint (List (RequestFilter σ))}
    {entries : Fields Value (List (RequestFilter σ))} (h : putGroups groups entries = .ok result)
    (nodup : groups.keys.Nodup) : result.keys.Nodup := by
  induction entries generalizing groups with
  | nil =>
    cases h
    exact nodup
  | cons entry rest ih =>
    obtain ⟨e, -, hrest⟩ := bind_eq_ok_iff.1 h
    exact ih hrest (Fields.nodup_keys_put nodup _ _)

theorem putGroups_ne_nil {groups result : Fields Endpoint (List (RequestFilter σ))}
    {entries : Fields Value (List (RequestFilter σ))} (h : putGroups groups entries = .ok result)
    (hne : groups ≠ [] ∨ entries ≠ []) : result ≠ [] := by
  induction entries generalizing groups with
  | nil =>
    cases h
    exact hne.resolve_right (by simp)
  | cons entry rest ih =>
    obtain ⟨e, -, hrest⟩ := bind_eq_ok_iff.1 h
    exact ih hrest (.inl (Fields.put_ne_nil _ _ _))

theorem putGroups_of_nodup (groups added : Fields Endpoint (List (RequestFilter σ)))
    (nodup : (Fields.keys (groups ++ added)).Nodup) :
    putGroups groups (added.map fun (e, filters) => (Value.endpoint e, filters)) =
      .ok (groups ++ added) := by
  induction added generalizing groups with
  | nil => simp [putGroups]
  | cons entry rest ih =>
    obtain ⟨e, filters⟩ := entry
    have absent : e ∉ groups.keys := by
      simp only [Fields.keys, List.map_append, List.map_cons, List.nodup_append] at nodup
      exact fun he => nodup.2.2 e he e (by simp) rfl
    have hrest := ih (groups ++ [(e, filters)]) (by simpa using nodup)
    rw [← Fields.put_of_not_mem absent] at hrest
    rw [List.map_cons, putGroups, Endpoint.ofValue, ok_bind, hrest, Fields.put_of_not_mem absent,
      List.append_assoc, List.singleton_append]

theorem FilterSet.normal_of_normalize {filters : FilterSet σ} {registry : Registry σ}
    (h : filters.normalize = .ok registry) : registry.Normal := by
  cases filters with
  | absent =>
    cases h
    rfl
  | listed filters =>
    cases h
    rfl
  | keyed entries =>
    cases entries with
    | nil =>
      cases h
      rfl
    | cons entry rest =>
      obtain ⟨groups, hgroups, rfl⟩ := map_eq_ok_iff.1 h
      have nodup := nodup_keys_putGroups hgroups List.nodup_nil
      have hagain := putGroups_of_nodup [] groups nodup
      cases groups with
      | nil => exact absurd rfl (putGroups_ne_nil hgroups (.inr (by simp)))
      | cons group others => exact map_eq_ok_iff.2 ⟨_, hagain, rfl⟩

theorem Registry.normal_append {filter : RequestFilter σ} {registry after : Registry σ}
    (h : registry.append filter = .ok after) : after.Normal := by
  cases registry with
  | listed filters =>
    cases h
    rfl
  | keyed groups => cases h

theorem Registry.matching_of_isEmpty {registry : Registry σ} (h : registry.isEmpty = true)
    (wanted : Endpoint) : registry.matching wanted = .ok [] := by
  cases registry with
  | listed filters =>
    cases filters with
    | nil => rfl
    | cons filter rest => cases h
  | keyed groups =>
    cases groups with
    | nil =>
      have hgroups (every key : Value) (isEvery : Bool) :
          selectKeyed every key isEvery ([] : Fields Value (List (RequestFilter σ))) = [] := by
        cases isEvery <;> rfl
      exact congrArg Except.ok (hgroups _ _ _)
    | cons group rest => cases h

end ClientRegistration
