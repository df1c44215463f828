import ClientRegistration.Fields
namespace ClientRegistration.Fields

section

variable {κ α β : Type} [BEq κ]

theorem get?_map (f : α → β) (key : κ) (fields : Fields κ α) :
    Fields.get? key (fields.map fun (k, v) => (k, f v)) = (fields.get? key).map f := by
  induction fields with
  | nil => rfl
  | cons field rest ih =>
    obtain ⟨k, v⟩ := field
    simp only [List.map_cons, get?]
    split
    · rfl
    · exact ih

theorem get?_append (key : κ) (fields others : Fields κ α) :
    Fields.get? key (fields ++ others) = (fields.get? key).or (others.get? key) := by
  induction fields with
  | nil => rfl
  | cons field rest ih =>
    obtain ⟨k, v⟩ := field
    simp only [List.cons_append, get?]
    split
    · rfl
    · exact ih

theorem get?_put_of_beq_self {key : κ} (h : (key == key) = true) (value : α)
    (fields : Fields κ α) : (fields.put key value).get? key = some value := by
  induction fields with
  | nil => rw [put, get?, if_pos h]
  | cons field rest ih =>
    obtain ⟨k, v⟩ := field
    rw [put]
    split
    · next hk => rw [get?, if_pos hk]
    · next hk => rw [get?, if_neg hk, ih]

theorem has_map (f : α → β) (key : κ) (fields : Fields κ α) :
    Fields.has key (fields.map fun (k, v) => (k, f v)) = fields.has key := by
  simp [has, Function.comp_def]

theorem put_ne_nil (key : κ) (value : α) (fields : Fields κ α) : fields.put key value ≠ [] := by
  cases fields with
  | nil => exact List.cons_ne_nil _ _
  | cons field rest =>
    rw [put]
    split <;> exact List.cons_ne_nil _ _

omit [BEq κ] in
theorem keys_map (f : α → β) (fields : Fields κ α) :
    Fields.keys (fields.map fun (k, v) => (k, f v)) = fields.keys := by
  simp [keys]

omit [BEq κ] in
theorem keys_filter_keys (keep : κ → Bool) (fields : Fields κ α) :
    Fields.keys (fields.filter fun (k, _) => keep k) = fields.keys.filter keep := by
  simp [keys, List.filter_map, Function.comp_def]

omit [BEq κ] in
theorem nodup_keys_filter {fields : Fields κ α} (nodup : fields.keys.Nodup)
    (keep : κ × α → Bool) : (Fields.keys (fields.filter keep)).Nodup :=
  nodup.sublist ((List.filter_sublist).map _)

end

section

variable {κ α : Type} [BEq κ] [LawfulBEq κ]

theorem has_iff_mem_keys (key : κ) (fields : Fields κ α) :
    fields.has key = true ↔ key ∈ fields.keys := by
  simp [has, keys]

theorem mem_of_get? {key : κ} {value : α} {fields : Fields κ α}
    (h : fields.get? key = some value) : (key, value) ∈ fields := by
  induction fields with
  | nil => simp [get?] at h
  | cons field rest ih =>
    obtain ⟨k, v⟩ := field
    by_cases hk : k = key
    · subst hk
      simp only [get?, beq_self_eq_true, ↓reduceIte, Option.some.injEq] at h
      simp [h]
    · exact List.mem_cons_of_mem _ (ih (by simpa [get?, hk] using h))

theorem get?_of_mem {key : κ} {value : α} {fields : Fields κ α} (nodup : fields.keys.Nodup)
    (h : (key, value) ∈ fields) : fields.get? key = some value := by
  induction fields with
  | nil => cases h
  | cons field rest ih =>
    obtain ⟨k, v⟩ := field
    have hn : k ∉ Fields.keys rest ∧ (Fields.keys rest).Nodup := List.nodup_cons.1 nodup
    rcases List.mem_cons.1 h with heq | hrest
    · cases heq
      simp [get?]
    · have hk : k ≠ key := by
        rintro rfl
        exact hn.1 (List.mem_map_of_mem hrest)
      simpa [get?, hk] using ih hn.2 hrest

theorem get?_map_keys {β : Type} (f : κ → α → β) (key : κ) (fields : Fields κ α) :
    Fields.get? key (fields.map fun (k, v) => (k, f k v)) = (fields.get? key).map (f key) := by
  induction fields with
  | nil => rfl
  | cons field rest ih =>
    obtain ⟨k, v⟩ := field
    by_cases hk : k = key
    · subst hk
      simp [get?]
    · simpa [get?, hk] using ih

theorem get?_filter_keys (keep : κ → Bool) (key : κ) (fields : Fields κ α) :
    Fields.get? key (fields.filter fun (k, _) => keep k) =
      if keep key then fields.get? key else none := by
  induction fields with
  | nil => simp [get?]
  | cons field rest ih =>
    obtain ⟨k, v⟩ := field
    by_cases hk : k = key
    · subst hk
      cases hkeep : keep k with
      | false => simpa [hkeep] using ih
      | true => simp [hkeep, get?]
    · cases hkeep : keep k with
      | false => simpa [hkeep, get?, hk] using ih
      | true => simpa [hkeep, get?, hk] using ih

theorem nodup_keys_put {fields : Fields κ α} (nodup : fields.keys.Nodup) (key : κ) (value : α) :
    (fields.put key value).keys.Nodup := by
  rw [keys_put]
  split
  · exact nodup
  · next absent =>
    rw [List.nodup_append]
    refine ⟨nodup, by simp, ?_⟩
    intro k hk other ho
    rw [List.mem_singleton.1 ho]
    rintro rfl
    exact absent hk

theorem put_of_not_mem {key : κ} {fields : Fields κ α} (absent : key ∉ fields.keys) (value : α) :
    fields.put key value = fields ++ [(key, value)] := by
  induction fields with
  | nil => rfl
  | cons field rest ih =>
    obtain ⟨k, v⟩ := field
    have hk : k ≠ key ∧ key ∉ Fields.keys rest := by
      simpa [keys, eq_comm, not_or] using absent
    simp [put, hk.1, ih hk.2]

theorem mem_of_mem_put {field : κ × α} {key : κ} {value : α} {fields : Fields κ α}
    (h : field ∈ fields.put key value) : field ∈ fields ∨ field = (key, value) := by
  induction fields with
  | nil => exact .inr (by simpa [put] using h)
  | cons other rest ih =>
    obtain ⟨k, v⟩ := other
    by_cases hk : k = key
    · subst hk
      simp only [put, beq_self_eq_true, ↓reduceIte, List.mem_cons] at h
      exact h.elim .inr fun hrest => .inl (List.mem_cons_of_mem _ hrest)
    · simp only [put, beq_iff_eq, hk, ↓reduceIte, List.mem_cons] at h
      rcases h with rfl | hrest
      · exact .inl (List.mem_cons_self ..)
      · exact (ih hrest).imp_left (List.mem_cons_of_mem _)

theorem mem_of_mem_collect {field : κ × α} {entries : List (κ × α)}
    (h : field ∈ collect entries) : field ∈ entries := by
  suffices ∀ fields : Fields κ α,
      field ∈ entries.foldl (fun fields (k, v) => Fields.put k v fields) fields →
        field ∈ fields ∨ field ∈ entries from (this [] h).resolve_left (by simp)
  clear h
  induction entries with
  | nil => exact fun fields h => .inl h
  | cons entry rest ih =>
    intro fields h
    rcases ih _ h with hput | hrest
    · rcases mem_of_mem_put hput with hfields | rfl
      · exact .inl hfields
      · exact .inr (List.mem_cons_self ..)
    · exact .inr (List.mem_cons_of_mem _ hrest)

theorem nodup_keys_collect (entries : List (κ × α)) : (collect entries).keys.Nodup := by
  suffices ∀ fields : Fields κ α, fields.keys.Nodup →
      (entries.foldl (fun fields (k, v) => Fields.put k v fields) fields).keys.Nodup from
    this [] (by simp [keys])
  induction entries with
  | nil => exact fun fields nodup => nodup
  | cons entry rest ih => exact fun fields nodup => ih _ (nodup_keys_put nodup _ _)

theorem collect_of_nodup {entries : Fields κ α} (nodup : entries.keys.Nodup) :
    collect entries = entries := by
  suffices ∀ fields : Fields κ α, (Fields.keys (fields ++ entries)).Nodup →
      entries.foldl (fun fields (k, v) => Fields.put k v fields) fields = fields ++ entries from
    this [] nodup
  clear nodup
  induction entries with
  | nil => simp
  | cons entry rest ih =>
    obtain ⟨k, v⟩ := entry
    intro fields nodup
    have absent : k ∉ fields.keys := by
      simp only [keys, List.map_append, List.map_cons, List.nodup_append] at nodup
      exact fun hk => nodup.2.2 k hk k (by simp) rfl
    simp only [List.foldl_cons, put_of_not_mem absent]
    rw [ih _ (by simpa using nodup)]
    simp

/-- Entries with each key once, at its first place and with its last value. -/
def lastOfEach (entries : List (κ × α)) : Fields κ α :=
  (keys entries).eraseDups.filterMap fun key => (get? key entries.reverse).map (key, ·)

omit [LawfulBEq κ] in
theorem lastOfEach_map {β : Type} (f : α → β) (entries : List (κ × α)) :
    lastOfEach (entries.map fun (k, v) => (k, f v)) =
      (lastOfEach entries).map fun (k, v) => (k, f v) := by
  rw [lastOfEach, lastOfEach, keys_map, List.map_filterMap, ← List.map_reverse]
  simp only [get?_map, Option.map_map]
  rfl

theorem get?_foldl_put (key : κ) (entries : List (κ × α)) (fields : Fields κ α) :
    (entries.foldl (fun fields (k, v) => Fields.put k v fields) fields).get? key =
      (get? key entries.reverse).or (fields.get? key) := by
  induction entries generalizing fields with
  | nil => rfl
  | cons entry rest ih =>
    obtain ⟨k, v⟩ := entry
    rw [List.foldl_cons, ih, List.reverse_cons, get?_append, Option.or_assoc]
    congr 1
    by_cases hk : k = key
    · simp [get?, hk]
    · rw [get?_put_of_ne (Ne.symm hk)]
      simp [get?, hk]

theorem keys_foldl_put (entries : List (κ × α)) (fields : Fields κ α) :
    (entries.foldl (fun fields (k, v) => Fields.put k v fields) fields).keys =
      fields.keys ++ ((keys entries).removeAll fields.keys).eraseDups := by
  induction entries generalizing fields with
  | nil => exact (List.append_nil _).symm
  | cons entry rest ih =>
    obtain ⟨k, v⟩ := entry
    have hcons : keys ((k, v) :: rest) = k :: keys rest := rfl
    rw [List.foldl_cons, ih, keys_put, hcons]
    split
    · next hmem => simp [List.removeAll, hmem]
    · next absent =>
      have hrest : ((keys rest).removeAll fields.keys).filter (fun other => !other == k) =
          (keys rest).removeAll (fields.keys ++ [k]) := by
        simp only [List.removeAll, List.filter_filter]
        refine List.filter_congr fun other _ => ?_
        by_cases hother : other = k <;> simp [hother]
      have hfirst : (k :: keys rest).removeAll fields.keys =
          k :: (keys rest).removeAll fields.keys := by
        simp [List.removeAll, absent]
      rw [hfirst, List.eraseDups_cons, hrest, List.append_assoc, List.singleton_append]

theorem filterMap_keys {fields : Fields κ α} (nodup : fields.keys.Nodup) :
    fields.keys.filterMap (fun key => (fields.get? key).map (key, ·)) = fields := by
  suffices ∀ others : Fields κ α, (∀ field ∈ others, field ∈ fields) →
      others.keys.filterMap (fun key => (fields.get? key).map (key, ·)) = others from
    this fields fun _ => id
  intro others
  induction others with
  | nil => exact fun _ => rfl
  | cons field rest ih =>
    intro hmem
    obtain ⟨hfield, hrest⟩ := List.forall_mem_cons.1 hmem
    have hcons : Fields.keys (field :: rest) = field.1 :: Fields.keys rest := rfl
    rw [hcons, List.filterMap_cons, get?_of_mem nodup hfield, ih hrest]
    rfl

/-- Fields are told by their keys, in order, and by what is found under each. -/
theorem eq_of_get? {fields others : Fields κ α} (nodup : fields.keys.Nodup)
    (hkeys : others.keys = fields.keys) (hget : ∀ key, others.get? key = fields.get? key) :
    others = fields := by
  have nodup' : others.keys.Nodup := hkeys ▸ nodup
  rw [← filterMap_keys nodup', hkeys]
  simp only [hget]
  exact filterMap_keys nodup

theorem collect_eq_lastOfEach (entries : List (κ × α)) : collect entries = lastOfEach entries := by
  have hkeys : (collect entries).keys = (keys entries).eraseDups := by
    have hall : (keys entries).removeAll (keys ([] : Fields κ α)) = keys entries := by
      rw [List.removeAll, List.filter_eq_self]
      exact fun key _ => rfl
    rw [collect, keys_foldl_put, hall]
    rfl
  have hget (key : κ) : (collect entries).get? key = get? key entries.reverse := by
    rw [collect, get?_foldl_put]
    exact Option.or_none
  rw [← filterMap_keys (nodup_keys_collect entries), hkeys]
  simp only [hget]
  rfl

theorem erase_of_nodup {fields : Fields κ α} (nodup : fields.keys.Nodup) (key : κ) :
    fields.erase key = fields.filter fun (k, _) => !(k == key) := by
  induction fields with
  | nil => rfl
  | cons field rest ih =>
    obtain ⟨k, v⟩ := field
    have hn : k ∉ Fields.keys rest ∧ (Fields.keys rest).Nodup := List.nodup_cons.1 nodup
    by_cases hk : k = key
    · subst hk
      have hrest : rest.filter (fun (k', _) => !(k' == k)) = rest := by
        rw [List.filter_eq_self]
        intro field hmem
        have : field.1 ≠ k := fun e => hn.1 (e ▸ List.mem_map.2 ⟨field, hmem, rfl⟩)
        simpa using this
      simp [erase, hrest]
    · simp [erase, hk, ih hn.2]

end

end ClientRegistration.Fields
