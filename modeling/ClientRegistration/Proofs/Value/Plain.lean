import ClientRegistration.Proofs.Value.Document
namespace ClientRegistration.Value

mutual

/-- A value and all it holds at any depth, in lists, tuples and mappings. -/
def parts : Value → List Value
  | .list items => .list items :: partsOfItems items
  | .tuple items => .tuple items :: partsOfItems items
  | .mapping entries => .mapping entries :: partsOfEntries entries
  | v => [v]

def partsOfItems : List Value → List Value
  | [] => []
  | item :: rest => parts item ++ partsOfItems rest

def partsOfEntries : List (Value × Value) → List Value
  | [] => []
  | (_, item) :: rest => parts item ++ partsOfEntries rest

end

def isPlainScalar : Value → Bool
  | .null | .bool _ | .float _ | .documentNaN | .text _ => true
  | .int n => !isLongInteger n
  | _ => false

/-- Whether a value is plain, whatever is to be said of what it holds; the keys of a mapping are
its own. -/
def isPlain : Value → Bool
  | .list _ | .tuple _ => true
  | .mapping entries => entries.all fun entry => entry.1.isPlainScalar
  | v => v.isPlainScalar

def keyText : Value → Text
  | .text t => t
  | v =>
    match v.toJson with
    | .ok document => document.write false
    | .error _ => []

mutual

/-- A value as it is read from its document: tuples are lists, keys are text, and of the entries
whose keys have the same text the last value stands at the first place. -/
def normal : Value → Value
  | .list items | .tuple items => .list (normalItems items)
  | .mapping entries => ofFields (Fields.lastOfEach (normalEntries entries))
  | .float .nan => .documentNaN
  | v => v

def normalItems : List Value → List Value
  | [] => []
  | item :: rest => normal item :: normalItems rest

def normalEntries : List (Value × Value) → List (Text × Value)
  | [] => []
  | (key, item) :: rest => (key.keyText, normal item) :: normalEntries rest

end

theorem memberKey_eq_ok_iff {key : Value} {name : Text} :
    memberKey key = .ok name ↔ key.isPlainScalar = true ∧ key.keyText = name := by
  cases key with
  | int n =>
    rw [memberKey, isPlainScalar, keyText, toJson]
    · cases isLongInteger n <;> simp [Json.write]
    · simp
  | bool b => cases b <;> simp [memberKey, isPlainScalar, keyText, toJson, Json.write]
  | _ => simp [memberKey, isPlainScalar, keyText, toJson, Json.write]

mutual

/-- The values which have a document are the plain ones. -/
theorem exists_toJson_iff : (v : Value) →
    ((∃ document, v.toJson = .ok document) ↔ ∀ part ∈ v.parts, part.isPlain = true)
  | .list items | .tuple items => by
    rw [toJson, exists_map_eq_ok_iff, exists_itemsToJson_iff items, parts, List.forall_mem_cons]
    exact (and_iff_right rfl).symm
  | .mapping entries => by
    rw [toJson, exists_map_eq_ok_iff, exists_entriesToJson_iff entries, parts,
      List.forall_mem_cons, isPlain, List.all_eq_true]
  | .int n => by
    cases hlong : isLongInteger n <;> simp [toJson, parts, isPlain, isPlainScalar, hlong]
  | .null | .bool _ | .float _ | .documentNaN | .text _ | .bytes _ _ | .set _ | .metadata _ _
  | .endpoint _ => by
    simp [toJson, parts, isPlain, isPlainScalar]

theorem exists_itemsToJson_iff : (items : List Value) →
    ((∃ documents, itemsToJson items = .ok documents) ↔
      ∀ part ∈ partsOfItems items, part.isPlain = true)
  | [] => by simp [itemsToJson, partsOfItems]
  | item :: rest => by
    rw [partsOfItems, List.forall_mem_append, ← exists_toJson_iff item,
      ← exists_itemsToJson_iff rest]
    constructor
    · rintro ⟨_, h⟩
      obtain ⟨document, hitem, h⟩ := bind_eq_ok_iff.1 h
      obtain ⟨documents, hrest, -⟩ := bind_eq_ok_iff.1 h
      exact ⟨⟨document, hitem⟩, documents, hrest⟩
    · rintro ⟨⟨document, hitem⟩, documents, hrest⟩
      refine ⟨document :: documents, ?_⟩
      rw [itemsToJson, hitem, hrest]
      rfl

theorem exists_entriesToJson_iff : (entries : List (Value × Value)) →
    ((∃ members, entriesToJson entries = .ok members) ↔
      (∀ entry ∈ entries, entry.1.isPlainScalar = true) ∧
        ∀ part ∈ partsOfEntries entries, part.isPlain = true)
  | [] => by simp [entriesToJson, partsOfEntries]
  | (key, item) :: rest => by
    have hrest := exists_entriesToJson_iff rest
    rw [partsOfEntries, List.forall_mem_append, List.forall_mem_cons, ← exists_toJson_iff item,
      and_and_and_comm, ← hrest]
    constructor
    · rintro ⟨_, h⟩
      obtain ⟨name, hname, h⟩ := bind_eq_ok_iff.1 h
      obtain ⟨document, hitem, h⟩ := bind_eq_ok_iff.1 h
      obtain ⟨members, hmembers, -⟩ := bind_eq_ok_iff.1 h
      exact ⟨⟨(memberKey_eq_ok_iff.1 hname).1, document, hitem⟩, members, hmembers⟩
    · rintro ⟨⟨hkey, document, hitem⟩, members, hmembers⟩
      refine ⟨(key.keyText, document) :: members, ?_⟩
      rw [entriesToJson, memberKey_eq_ok_iff.2 ⟨hkey, rfl⟩, ok_bind, hitem, hmembers]
      rfl

end

theorem fieldsOfMembers_collect (members : List (Text × Json)) :
    fieldsOfMembers (Fields.collect members) = Fields.lastOfEach (fieldsOfMembers members) := by
  rw [Fields.collect_eq_lastOfEach, fieldsOfMembers, fieldsOfMembers, Fields.lastOfEach_map]

mutual

/-- What is read from the document of a value is its normal form. -/
theorem ofJson_collapse : {v : Value} → {document : Json} → v.toJson = .ok document →
    ofJson document.collapse = v.normal
  | .list items, _, h | .tuple items, _, h => by
    rw [toJson] at h
    obtain ⟨documents, hitems, rfl⟩ := map_eq_ok_iff.1 h
    rw [Json.collapse, ofJson, ofItems_collapseItems hitems, normal]
  | .mapping entries, _, h => by
    rw [toJson] at h
    obtain ⟨members, hentries, rfl⟩ := map_eq_ok_iff.1 h
    rw [Json.collapse, ofJson_object, fieldsOfMembers_collect,
      fieldsOfMembers_collapseMembers hentries, normal]
  | .int n, _, h => by
    rw [toJson] at h
    split at h <;> cases h
    rfl
  | .float x, _, h => by
    cases h
    cases x <;> rfl
  | .null, _, h | .bool _, _, h | .documentNaN, _, h | .text _, _, h => by
    cases h
    rfl
  | .bytes _ _, _, h | .set _, _, h | .metadata _ _, _, h | .endpoint _, _, h => by
    cases h

theorem ofItems_collapseItems : {items : List Value} → {documents : List Json} →
    itemsToJson items = .ok documents →
    ofItems (Json.collapseItems documents) = normalItems items
  | [], _, h => by
    cases h
    rfl
  | item :: rest, _, h => by
    obtain ⟨document, hitem, h⟩ := bind_eq_ok_iff.1 h
    obtain ⟨documents, hrest, h⟩ := bind_eq_ok_iff.1 h
    cases h
    rw [Json.collapseItems, ofItems, ofJson_collapse hitem, ofItems_collapseItems hrest,
      normalItems]

theorem fieldsOfMembers_collapseMembers : {entries : List (Value × Value)} →
    {members : List (Text × Json)} → entriesToJson entries = .ok members →
    fieldsOfMembers (Json.collapseMembers members) = normalEntries entries
  | [], _, h => by
    cases h
    rfl
  | (key, item) :: rest, _, h => by
    obtain ⟨name, hname, h⟩ := bind_eq_ok_iff.1 h
    obtain ⟨document, hitem, h⟩ := bind_eq_ok_iff.1 h
    obtain ⟨members, hrest, h⟩ := bind_eq_ok_iff.1 h
    cases h
    have hcons : fieldsOfMembers (Json.collapseMembers ((name, document) :: members)) =
        (name, ofJson document.collapse) :: fieldsOfMembers (Json.collapseMembers members) := rfl
    rw [hcons, ofJson_collapse hitem, fieldsOfMembers_collapseMembers hrest, normalEntries,
      (memberKey_eq_ok_iff.1 hname).2]

end

end ClientRegistration.Value
