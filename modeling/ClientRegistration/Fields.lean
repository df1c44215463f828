namespace ClientRegistration

abbrev Fields (κ : Type) (α : Type) := List (κ × α)

namespace Fields

variable {κ α : Type} [BEq κ]

def get? (key : κ) : Fields κ α → Option α
  | [] => none
  | (k, v) :: rest => if k == key then some v else get? key rest

def has (key : κ) (fields : Fields κ α) : Bool := fields.any fun (k, _) => k == key

/-- The fields with a value under a key, at the place of the key or at the end. -/
def put (key : κ) (value : α) : Fields κ α → Fields κ α
  | [] => [(key, value)]
  | (k, v) :: rest => if k == key then (k, value) :: rest else (k, v) :: put key value rest

def erase (key : κ) : Fields κ α → Fields κ α
  | [] => []
  | (k, v) :: rest => if k == key then rest else (k, v) :: erase key rest

omit [BEq κ] in
def keys (fields : Fields κ α) : List κ := fields.map (·.1)

/-- Fields put one after the other: a repeated key keeps its first place and its last value. -/
def collect (entries : List (κ × α)) : Fields κ α :=
  entries.foldl (fun fields (k, v) => put k v fields) []

theorem has_eq_isSome_get? (key : κ) (fields : Fields κ α) :
    fields.has key = (fields.get? key).isSome := by
  induction fields with
  | nil => rfl
  | cons field rest ih =>
    obtain ⟨k, v⟩ := field
    by_cases h : (k == key) = true
    · simp [has, get?, h]
    · rw [Bool.not_eq_true] at h
      simpa [has, get?, h] using ih

variable [LawfulBEq κ]

@[simp] theorem get?_put_self (key : κ) (value : α) (fields : Fields κ α) :
    (fields.put key value).get? key = some value := by
  induction fields with
  | nil => simp [put, get?]
  | cons field rest ih =>
    obtain ⟨k, v⟩ := field
    by_cases h : k = key
    · simp [put, get?, h]
    · simpa [put, get?, h] using ih

theorem get?_put_of_ne {key other : κ} (h : other ≠ key) (value : α) (fields : Fields κ α) :
    (fields.put key value).get? other = fields.get? other := by
  induction fields with
  | nil => simp [put, get?, h.symm]
  | cons field rest ih =>
    obtain ⟨k, v⟩ := field
    by_cases hk : k = key
    · subst hk
      simp [put, get?, h.symm]
    · by_cases ho : k = other
      · simp [put, get?, ho, h]
      · simpa [put, get?, hk, ho] using ih

theorem keys_put (key : κ) (value : α) (fields : Fields κ α) :
    (fields.put key value).keys =
      if key ∈ fields.keys then fields.keys else fields.keys ++ [key] := by
  induction fields with
  | nil => simp [put, keys]
  | cons field rest ih =>
    obtain ⟨k, v⟩ := field
    by_cases h : k = key
    · simp [put, keys, h]
    · have hk : key ≠ k := Ne.symm h
      by_cases hm : key ∈ rest.map (·.1)
      · simpa [put, keys, h, hk, hm] using ih
      · simpa [put, keys, h, hk, hm] using ih

end Fields

end ClientRegistration
