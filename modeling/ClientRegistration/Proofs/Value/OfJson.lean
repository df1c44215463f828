import ClientRegistration.Proofs.Value.Document
namespace ClientRegistration

theorem Binary64.equals_self {x : Binary64} (h : x ≠ .nan) : x.equals x = true := by
  cases x with
  | nan => exact absurd rfl h
  | infinity negative => simp [equals]
  | finite negative exponent fraction => simp [equals]

theorem Number.equals_self {n : Number} (h : n ≠ .float .nan) : n.equals n = true := by
  cases n with
  | int n => exact beq_self_eq_true n
  | float x => exact Binary64.equals_self (mt (congrArg Number.float) h)

namespace Value

mutual

theorem hasView_ofJson : (j : Json) → hasView (ofJson j) = false
  | .null | .bool _ | .int _ | .text _ => rfl
  | .float x => by cases x <;> rfl
  | .array items => itemsHaveView_ofItems items
  | .object members => entriesHaveView_ofMembers members

theorem itemsHaveView_ofItems : (items : List Json) → itemsHaveView (ofItems items) = false
  | [] => rfl
  | item :: rest => by
    rw [ofItems, itemsHaveView, hasView_ofJson item, itemsHaveView_ofItems rest]
    rfl

theorem entriesHaveView_ofMembers :
    (members : List (Text × Json)) → entriesHaveView (ofMembers members) = false
  | [] => rfl
  | (key, item) :: rest => by
    rw [ofMembers, entriesHaveView, hasView_ofJson item, entriesHaveView_ofMembers rest]
    rfl

end

theorem fieldsHaveView_fieldsOfMembers (members : List (Text × Json)) :
    fieldsHaveView (fieldsOfMembers members) = false := by
  induction members with
  | nil => rfl
  | cons member rest ih =>
    obtain ⟨key, item⟩ := member
    change (hasView (ofJson item) || fieldsHaveView (fieldsOfMembers rest)) = false
    rw [hasView_ofJson, ih]
    rfl

theorem equals_text_self (t : Text) : (text t).equals (.text t) = true := by
  simp [equals, leafEquals, number?]

/-- Every number is the same item as itself, but for not-a-number. -/
theorem sameItem_self_of_number? {v : Value} {n : Number} (hnumber : v.number? = some n)
    (hn : n ≠ .float .nan) : sameItem v v = true := by
  have hself := Number.equals_self hn
  cases v <;> cases hnumber <;> simp [sameItem, equals, leafEquals, number?, hself]

mutual

theorem sameItem_ofJson : (j : Json) → sameItem (ofJson j) (ofJson j) = true
  | .null => by simp [ofJson, sameItem, equals, leafEquals, number?]
  | .bool _ => sameItem_self_of_number? rfl nofun
  | .int _ => sameItem_self_of_number? rfl nofun
  | .float .nan => rfl
  | .float (.infinity _) => sameItem_self_of_number? rfl nofun
  | .float (.finite ..) => sameItem_self_of_number? rfl nofun
  | .text t => by rw [ofJson, sameItem, equals_text_self, Bool.or_true]
  | .array items => by rw [ofJson, sameItem, equals, itemsEqual_ofItems items, Bool.or_true]
  | .object members => by
    rw [ofJson, sameItem, equals, entriesWithin_ofMembers members (List.Subset.refl _),
      beq_self_eq_true, Bool.and_true, Bool.or_true]

theorem itemsEqual_ofItems : (items : List Json) →
    itemsEqual (ofItems items) (ofItems items) = true
  | [] => by simp [ofItems, itemsEqual]
  | item :: rest => by
    have hitem := sameItem_ofJson item
    rw [sameItem] at hitem
    rw [ofItems, itemsEqual, hitem, itemsEqual_ofItems rest]
    rfl

theorem entriesWithin_ofMembers : (members : List (Text × Json)) →
    {entries : List (Value × Value)} → ofMembers members ⊆ entries →
    entriesWithin (ofMembers members) entries = true
  | [], _, _ => by simp [ofMembers, entriesWithin]
  | (key, item) :: rest, entries, h => by
    have hitem := sameItem_ofJson item
    rw [sameItem] at hitem
    rw [ofMembers, List.cons_subset] at h
    rw [ofMembers, entriesWithin, entriesWithin_ofMembers rest h.2, Bool.and_true, List.any_eq_true]
    refine ⟨_, h.1, ?_⟩
    dsimp only
    rw [equals_text_self, Bool.or_true, hitem]
    rfl

end

theorem fieldsWithin_fieldsOfMembers (members : List (Text × Json))
    {entries : List (Value × Value)} (h : ofMembers members ⊆ entries) :
    fieldsWithin (fieldsOfMembers members) entries = true := by
  induction members with
  | nil => simp [fieldsOfMembers, fieldsWithin]
  | cons member rest ih =>
    obtain ⟨key, item⟩ := member
    have hitem := sameItem_ofJson item
    rw [sameItem] at hitem
    rw [ofMembers, List.cons_subset] at h
    have hcons : fieldsOfMembers ((key, item) :: rest) =
        (key, ofJson item) :: fieldsOfMembers rest := rfl
    rw [hcons, fieldsWithin, ih h.2, Bool.and_true, List.any_eq_true]
    refine ⟨_, h.1, ?_⟩
    dsimp only
    rw [hitem, Bool.and_true, leafEquals]
    simp [number?]

theorem equals_metadata_of_members (source source' : Text) (members : List (Text × Json)) :
    (metadata source (fieldsOfMembers members)).equals
      (.metadata source' (fieldsOfMembers members)) = true := by
  have hwithin := fieldsWithin_fieldsOfMembers members (List.Subset.refl _)
  rw [ofMembers_eq] at hwithin
  rw [equals, beq_self_eq_true, Bool.true_and]
  exact hwithin

theorem equals_ofJson_object (members : List (Text × Json)) :
    (ofJson (.object members)).equals (ofJson (.object members)) = true := by
  rw [ofJson, equals, beq_self_eq_true, Bool.true_and]
  exact entriesWithin_ofMembers members (List.Subset.refl _)

end Value

end ClientRegistration
