import ClientRegistration.Metadata
import ClientRegistration.Proofs.Fields
import ClientRegistration.Proofs.Json.Pairs
import ClientRegistration.Proofs.Json.Readable
import ClientRegistration.Proofs.Value.Conversion
import Mathlib.Data.List.Basic
namespace ClientRegistration.Value

@[simp] theorem text_beq_text (t u : Text) : (Value.text t == Value.text u) = (t == u) := by
  change sameItem (.text t) (.text u) = _
  rw [sameItem, equals, Bool.eq_iff_iff]
  · simp [isDocumentNaN, leafEquals, number?]
  all_goals simp

def entriesOfFields (fields : Fields Text Value) : Fields Value Value :=
  fields.map fun (key, item) => (.text key, item)

theorem entriesOfFields_injective : Function.Injective entriesOfFields := by
  apply Function.Injective.list_map
  rintro ⟨key, item⟩ ⟨key', item'⟩ h
  cases h
  rfl

theorem get?_entriesOfFields (key : Text) (fields : Fields Text Value) :
    (entriesOfFields fields).get? (.text key) = fields.get? key := by
  induction fields with
  | nil => rfl
  | cons field rest ih =>
    obtain ⟨k, v⟩ := field
    change Fields.get? (.text key) ((.text k, v) :: entriesOfFields rest) = _
    simp only [Fields.get?, text_beq_text, ih]

theorem put_entriesOfFields (key : Text) (v : Value) (fields : Fields Text Value) :
    (entriesOfFields fields).put (.text key) v = entriesOfFields (fields.put key v) := by
  induction fields with
  | nil => rfl
  | cons field rest ih =>
    obtain ⟨k, w⟩ := field
    change Fields.put (.text key) v ((.text k, w) :: entriesOfFields rest) = _
    simp only [Fields.put, text_beq_text, ih]
    split <;> rfl

theorem erase_entriesOfFields (key : Text) (fields : Fields Text Value) :
    (entriesOfFields fields).erase (.text key) = entriesOfFields (fields.erase key) := by
  induction fields with
  | nil => rfl
  | cons field rest ih =>
    obtain ⟨k, v⟩ := field
    change Fields.erase (.text key) ((.text k, v) :: entriesOfFields rest) = _
    simp only [Fields.erase, text_beq_text, ih]
    split <;> rfl

theorem ofMembers_eq (members : List (Text × Json)) :
    ofMembers members = entriesOfFields (fieldsOfMembers members) := by
  induction members with
  | nil => rfl
  | cons member rest ih =>
    rw [ofMembers, ih]
    rfl

theorem ofJson_object (members : List (Text × Json)) :
    ofJson (.object members) = ofFields (fieldsOfMembers members) := by
  rw [ofJson, ofMembers_eq]
  rfl

mutual

theorem toJson_ofJson : {j : Json} → j.Readable → (ofJson j).toJson = .ok j
  | .null, _ | .bool _, _ | .text _, _ => rfl
  | .int n, h => by
    have hshort : isLongInteger n = false := decide_eq_false (Nat.not_lt.2 h)
    simp [ofJson, toJson, hshort]
  | .float x, _ => by cases x <;> rfl
  | .array items, h => by rw [ofJson, toJson, itemsToJson_ofItems h.2]; rfl
  | .object members, h => by rw [ofJson, toJson, entriesToJson_ofMembers h.2]; rfl

theorem itemsToJson_ofItems : {items : List Json} → Json.EveryItem Json.Proper items →
    itemsToJson (ofItems items) = .ok items
  | [], _ => rfl
  | item :: rest, h => by
    rw [ofItems, itemsToJson, toJson_ofJson h.1, itemsToJson_ofItems h.2]; rfl

theorem entriesToJson_ofMembers : {members : List (Text × Json)} →
    Json.EveryMember Json.Proper members → entriesToJson (ofMembers members) = .ok members
  | [], _ => rfl
  | (key, item) :: rest, h => by
    rw [ofMembers, entriesToJson, toJson_ofJson h.1, entriesToJson_ofMembers h.2]; rfl

end

mutual

/-- The texts in a value at any depth, in lists, tuples and mappings: its strings, and keys which
are strings. -/
def texts : Value → List Text
  | .text t => [t]
  | .list items | .tuple items => textsOfItems items
  | .mapping entries => textsOfEntries entries
  | _ => []

def textsOfItems : List Value → List Text
  | [] => []
  | item :: rest => texts item ++ textsOfItems rest

def textsOfEntries : List (Value × Value) → List Text
  | [] => []
  | (key, item) :: rest => texts key ++ texts item ++ textsOfEntries rest

end

/-- A key which is no text has a name in ASCII. -/
theorem readsBack_of_memberKey {ascii : Bool} {key : Value} {name : Text}
    (h : memberKey key = .ok name) (back : ∀ t ∈ key.texts, Json.ReadsBack ascii t) :
    Json.ReadsBack ascii name := by
  cases key with
  | text t =>
    cases h
    exact back name (List.mem_singleton_self name)
  | int n =>
    rw [memberKey] at h
    split at h
    · cases h
    · cases h
      exact Json.readsBack_of_inAscii ascii (Json.inAscii_ofInt n)
  | float x =>
    cases h
    exact Json.readsBack_of_inAscii ascii (Json.inAscii_writeFloat x)
  | documentNaN =>
    cases h
    exact Json.readsBack_of_inAscii ascii (Json.inAscii_writeFloat .nan)
  | null =>
    cases h
    exact Json.readsBack_of_inAscii ascii (by decide)
  | bool b =>
    cases h
    exact Json.readsBack_of_inAscii ascii (by cases b <;> decide)
  | bytes _ _ | list _ | tuple _ | set _ | mapping _ | metadata _ _ | endpoint _ => cases h

mutual

/-- The document of a value can be read again if its texts can: integers that are too long have no
document. -/
theorem writable_of_toJson {ascii : Bool} : {v : Value} → {j : Json} → v.toJson = .ok j →
    (∀ t ∈ v.texts, Json.ReadsBack ascii t) → j.Every (Json.Writable ascii)
  | .null, _, h, _ | .bool _, _, h, _ | .float _, _, h, _ | .documentNaN, _, h, _ => by
    cases h
    trivial
  | .int n, _, h, _ => by
    rw [toJson] at h
    split at h
    · cases h
    · next hshort =>
      cases h
      exact Nat.not_lt.1 fun hlong => hshort (decide_eq_true hlong)
  | .text t, _, h, back => by
    cases h
    exact back t (List.mem_singleton_self t)
  | .list items, _, h, back | .tuple items, _, h, back => by
    rw [toJson] at h
    obtain ⟨documents, hitems, rfl⟩ := map_eq_ok_iff.1 h
    exact ⟨trivial, everyItem_of_itemsToJson hitems back⟩
  | .mapping entries, _, h, back => by
    rw [toJson] at h
    obtain ⟨members, hentries, rfl⟩ := map_eq_ok_iff.1 h
    exact everyMember_of_entriesToJson hentries back
  | .bytes _ _, _, h, _ | .set _, _, h, _ | .metadata _ _, _, h, _ | .endpoint _, _, h, _ => by
    cases h

theorem everyItem_of_itemsToJson {ascii : Bool} : {items : List Value} →
    {documents : List Json} → itemsToJson items = .ok documents →
    (∀ t ∈ textsOfItems items, Json.ReadsBack ascii t) →
    Json.EveryItem (Json.Writable ascii) documents
  | [], _, h, _ => by
    cases h
    trivial
  | item :: rest, _, h, back => by
    obtain ⟨document, hitem, h⟩ := bind_eq_ok_iff.1 h
    obtain ⟨documents, hrest, h⟩ := bind_eq_ok_iff.1 h
    cases h
    rw [textsOfItems, List.forall_mem_append] at back
    exact ⟨writable_of_toJson hitem back.1, everyItem_of_itemsToJson hrest back.2⟩

theorem everyMember_of_entriesToJson {ascii : Bool} : {entries : List (Value × Value)} →
    {members : List (Text × Json)} → entriesToJson entries = .ok members →
    (∀ t ∈ textsOfEntries entries, Json.ReadsBack ascii t) →
    (∀ key ∈ Fields.keys members, Json.ReadsBack ascii key) ∧
      Json.EveryMember (Json.Writable ascii) members
  | [], _, h, _ => by
    cases h
    exact ⟨nofun, trivial⟩
  | (key, item) :: rest, _, h, back => by
    obtain ⟨name, hname, h⟩ := bind_eq_ok_iff.1 h
    obtain ⟨document, hitem, h⟩ := bind_eq_ok_iff.1 h
    obtain ⟨members, hrest, h⟩ := bind_eq_ok_iff.1 h
    cases h
    simp only [textsOfEntries, List.forall_mem_append] at back
    obtain ⟨⟨hkey, hback⟩, hothers⟩ := back
    obtain ⟨hkeys, hmembers⟩ := everyMember_of_entriesToJson hrest hothers
    exact ⟨List.forall_mem_cons.2 ⟨readsBack_of_memberKey hname hkey, hkeys⟩,
      writable_of_toJson hitem hback, hmembers⟩

end

theorem readText_eq_ok_iff {t : Text} {j : Json} :
    readText t = .ok j ↔ Json.read t = .ok j := by
  rw [readText, readTextWith]
  cases Json.read t <;> simp

theorem read_write_of_toJson {v : Value} {j : Json} (h : v.toJson = .ok j) :
    Json.read (j.write false) = .ok j.collapse :=
  Json.read_write (writable_of_toJson h fun t _ => Json.readsBack_unicode t)

theorem read_write_ascii_of_toJson {v : Value} {j : Json} (h : v.toJson = .ok j)
    (unpaired : ∀ t ∈ v.texts, t.Unpaired) : Json.read (j.write true) = .ok j.collapse :=
  Json.read_write (writable_of_toJson h fun t ht => Json.readsBack_ascii_iff.2 (unpaired t ht))

theorem keys_of_entriesToJson {fields : Fields Text Value} {members : List (Text × Json)}
    (h : entriesToJson (entriesOfFields fields) = .ok members) :
    Fields.keys members = fields.keys := by
  induction fields generalizing members with
  | nil =>
    cases h
    rfl
  | cons field rest ih =>
    obtain ⟨key, item⟩ := field
    obtain ⟨name, hname, h⟩ := bind_eq_ok_iff.1 h
    obtain ⟨document, -, h⟩ := bind_eq_ok_iff.1 h
    obtain ⟨others, hrest, h⟩ := bind_eq_ok_iff.1 h
    cases hname
    cases h
    exact congrArg (key :: ·) (ih hrest)

theorem toJson_ofFields {members : List (Text × Json)} (h : (Json.object members).Readable) :
    (ofFields (fieldsOfMembers members)).toJson = .ok (.object members) := by
  rw [← ofJson_object]
  exact toJson_ofJson h

end ClientRegistration.Value
