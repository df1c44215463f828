import ClientRegistration.Merge
import ClientRegistration.Proofs.Fields
namespace ClientRegistration

section

variable {κ α β : Type} [BEq κ] (isPrivate : κ → Bool) (current new : Fields κ α)

theorem mergeFields_map (f : α → β) :
    mergeFields isPrivate (current.map fun (key, v) => (key, f v))
        (new.map fun (key, v) => (key, f v)) =
      (mergeFields isPrivate current new).map fun (key, v) => (key, f v) := by
  have hheld (key : κ) (v : α) :
      (Fields.get? key (new.map fun (key, v) => (key, f v))).getD (f v) =
        f ((new.get? key).getD v) := by
    rw [Fields.get?_map]
    cases new.get? key <;> rfl
  simp [mergeFields, List.filter_map, Function.comp_def, hheld, Fields.has_map]

theorem keys_mergeFields :
    Fields.keys (mergeFields isPrivate current new) =
      current.keys.filter (fun key => !isPrivate key) ++
        new.keys.filter fun key => !isPrivate key && !current.has key := by
  rw [mergeFields, ← Fields.keys_filter_keys, ← Fields.keys_filter_keys]
  simp [Fields.keys]

variable [LawfulBEq κ]

/-- A field has the new value if there is one, else the current one, unless it is private. -/
theorem get?_mergeFields (key : κ) :
    Fields.get? key (mergeFields isPrivate current new) =
      if isPrivate key then none else (new.get? key).or (current.get? key) := by
  have hheld := Fields.get?_map_keys (fun key v => (new.get? key).getD v) key
    (current.filter fun (key, _) => !isPrivate key)
  rw [Fields.get?_filter_keys (fun key => !isPrivate key)] at hheld
  have hadded := Fields.get?_filter_keys (fun key => !isPrivate key && !current.has key) key new
  rw [Fields.has_eq_isSome_get?] at hadded
  rw [mergeFields, Fields.get?_append]
  refine (congr (congrArg Option.or hheld) hadded).trans ?_
  cases isPrivate key <;> cases current.get? key <;> cases new.get? key <;> rfl

theorem has_mergeFields (key : κ) :
    Fields.has key (mergeFields isPrivate current new) =
      (!isPrivate key && (current.has key || new.has key)) := by
  simp only [Fields.has_eq_isSome_get?, get?_mergeFields]
  cases isPrivate key <;> simp [Bool.or_comm]

/-- To merge one document after another is to merge the merge of both. -/
theorem mergeFields_assoc (other : Fields κ α) :
    mergeFields isPrivate (mergeFields isPrivate current new) other =
      mergeFields isPrivate current (mergeFields isPrivate new other) := by
  have hcurrent (field : κ × α) (hmem : field ∈ current.filter fun (key, _) => !isPrivate key) :
      (field.1, (other.get? field.1).getD ((new.get? field.1).getD field.2)) =
        (field.1, (Fields.get? field.1 (mergeFields isPrivate new other)).getD field.2) := by
    have hpublic : isPrivate field.1 = false := by simpa using (List.mem_filter.1 hmem).2
    rw [get?_mergeFields, hpublic]
    cases other.get? field.1 <;> rfl
  have hother (key : κ) :
      (!isPrivate key && !Fields.has key (mergeFields isPrivate current new)) =
        (!isPrivate key && !current.has key && (!isPrivate key && !new.has key)) := by
    rw [has_mergeFields]
    cases isPrivate key <;> simp
  calc mergeFields isPrivate (mergeFields isPrivate current new) other
    _ = ((current.filter fun (key, _) => !isPrivate key).map fun (key, v) =>
          (key, (other.get? key).getD ((new.get? key).getD v))) ++
        ((new.filter fun (key, _) => !isPrivate key && !current.has key).map fun (key, v) =>
          (key, (other.get? key).getD v)) ++
        other.filter fun (key, _) =>
          !isPrivate key && !current.has key && (!isPrivate key && !new.has key) := by
      simp only [← hother]
      simp [mergeFields, List.filter_map, Function.comp_def]
    _ = mergeFields isPrivate current (mergeFields isPrivate new other) := by
      rw [List.map_congr_left hcurrent, List.append_assoc]
      congr 1
      simp [mergeFields, List.filter_map, Function.comp_def, Bool.and_right_comm]

theorem nodup_keys_mergeFields {current new : Fields κ α} (hcurrent : current.keys.Nodup)
    (hnew : new.keys.Nodup) : (Fields.keys (mergeFields isPrivate current new)).Nodup := by
  rw [keys_mergeFields, List.nodup_append]
  refine ⟨hcurrent.filter _, hnew.filter _, ?_⟩
  intro key hheld other hadded
  rintro rfl
  have hhas := (Fields.has_iff_mem_keys key current).2 (List.mem_filter.1 hheld).1
  simp [hhas] at hadded

theorem mem_mergeFields {current new : Fields κ α} {key : κ} {v : α}
    (h : (key, v) ∈ mergeFields isPrivate current new) :
    (key, v) ∈ current ∨ (key, v) ∈ new := by
  rcases List.mem_append.1 h with hheld | hadded
  · obtain ⟨⟨k, w⟩, hmem, heq⟩ := List.mem_map.1 hheld
    obtain ⟨rfl, rfl⟩ := Prod.mk.inj heq
    cases hget : new.get? k with
    | none => exact .inl (by simpa [hget] using (List.mem_filter.1 hmem).1)
    | some given => exact .inr (by simpa [hget] using Fields.mem_of_get? hget)
  · exact .inr (List.mem_filter.1 hadded).1

omit [LawfulBEq κ] in
theorem mergeFields_nil :
    mergeFields isPrivate current [] = current.filter fun (key, _) => !isPrivate key := by
  simp [mergeFields, Fields.get?]

omit [LawfulBEq κ] in
theorem nil_mergeFields :
    mergeFields isPrivate [] new = new.filter fun (key, _) => !isPrivate key := by
  simp [mergeFields, Fields.has]

theorem mergeFields_self {fields : Fields κ α} (nodup : fields.keys.Nodup) :
    mergeFields isPrivate fields fields = fields.filter fun (key, _) => !isPrivate key := by
  have hheld (field : κ × α) (hmem : field ∈ fields.filter fun (key, _) => !isPrivate key) :
      (field.1, (fields.get? field.1).getD field.2) = field := by
    rw [Fields.get?_of_mem nodup (List.mem_filter.1 hmem).1]
    rfl
  have hadded :
      (fields.filter fun (key, _) => !isPrivate key && !fields.has key) = [] := by
    rw [List.filter_eq_nil_iff]
    intro (key, v) hmem
    have hhas := (Fields.has_iff_mem_keys key fields).2 (List.mem_map_of_mem hmem)
    simp [hhas]
  rw [mergeFields, hadded, List.append_nil, List.map_congr_left hheld, List.map_id']

theorem mergeFields_filter_left :
    mergeFields isPrivate (current.filter fun (key, _) => !isPrivate key) new =
      mergeFields isPrivate current new := by
  have hhas (key : κ) :
      (!isPrivate key && !Fields.has key (current.filter fun (key, _) => !isPrivate key)) =
        (!isPrivate key && !current.has key) := by
    rw [Fields.has_eq_isSome_get?, Fields.has_eq_isSome_get?,
      Fields.get?_filter_keys fun key => !isPrivate key]
    cases isPrivate key <;> rfl
  simp only [mergeFields, List.filter_filter, Bool.and_self, hhas]

theorem mergeFields_filter_right :
    mergeFields isPrivate current (new.filter fun (key, _) => !isPrivate key) =
      mergeFields isPrivate current new := by
  have hheld (field : κ × α) (hmem : field ∈ current.filter fun (key, _) => !isPrivate key) :
      (field.1,
          (Fields.get? field.1 (new.filter fun (key, _) => !isPrivate key)).getD field.2) =
        (field.1, (new.get? field.1).getD field.2) := by
    have hpublic : (!isPrivate field.1) = true := (List.mem_filter.1 hmem).2
    rw [Fields.get?_filter_keys fun key => !isPrivate key, hpublic]
    rfl
  have hadded (key : κ) :
      (!isPrivate key && !current.has key && !isPrivate key) =
        (!isPrivate key && !current.has key) := by
    cases isPrivate key <;> simp
  rw [mergeFields, mergeFields, List.map_congr_left hheld]
  simp only [List.filter_filter, hadded]

theorem mergeFields_again {new : Fields κ α} (nodup : new.keys.Nodup) :
    mergeFields isPrivate (mergeFields isPrivate current new) new =
      mergeFields isPrivate current new := by
  rw [mergeFields_assoc, mergeFields_self isPrivate nodup, mergeFields_filter_right]

theorem mergeFields_twice {current : Fields κ α} (nodup : current.keys.Nodup) :
    mergeFields isPrivate current (mergeFields isPrivate current new) =
      mergeFields isPrivate current new := by
  rw [← mergeFields_assoc, mergeFields_self isPrivate nodup, mergeFields_filter_left]

end

end ClientRegistration
