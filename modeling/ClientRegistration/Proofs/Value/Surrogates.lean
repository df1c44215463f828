import ClientRegistration.Proofs.Json.Ascii
import ClientRegistration.Proofs.Value.Document
namespace ClientRegistration

@[simp] theorem CodePoint.isSurrogate_ofChar (c : Char) : (ofChar c).isSurrogate = false := by
  have hvalid : c.toNat < 0xD800 ∨ 0xDFFF < c.toNat ∧ c.toNat < 0x110000 := c.valid
  rw [isSurrogate, Bool.and_eq_false_iff, decide_eq_false_iff_not, decide_eq_false_iff_not]
  change ¬0xD800 ≤ c.toNat ∨ ¬c.toNat ≤ 0xDFFF
  omega

namespace Text

@[simp] theorem hasSurrogate_nil : hasSurrogate [] = false := rfl

@[simp] theorem hasSurrogate_cons (c : CodePoint) (t : Text) :
    hasSurrogate (c :: t) = (c.isSurrogate || hasSurrogate t) := rfl

@[simp] theorem hasSurrogate_append (t u : Text) :
    hasSurrogate (t ++ u) = (hasSurrogate t || hasSurrogate u) := List.any_append

theorem InAscii.hasSurrogate {t : Text} (h : t.InAscii) : t.hasSurrogate = false := by
  refine hasSurrogate_eq_false_iff.2 fun c hc => CodePoint.isSurrogate_eq_false_iff.2 ?_
  have hascii := h c hc
  omega

@[simp] theorem hasSurrogate_ofString (s : String) : (ofString s).hasSurrogate = false := by
  simp [ofString, hasSurrogate]

end Text

namespace Json

theorem hasSurrogate_writeChar (c : CodePoint) :
    (writeChar false c).hasSurrogate = c.isSurrogate := by
  have inAscii {w : Text} (hw : w.InAscii) (hc : c.val ≤ 0x7E) :
      w.hasSurrogate = c.isSurrogate := by
    rw [hw.hasSurrogate, CodePoint.isSurrogate_eq_false_iff.2 (by omega)]
  have hwritten := written_writeChar false c
  generalize writeChar false c = w at hwritten
  cases hwritten with
  | letter he h =>
    obtain ⟨hletter, hc⟩ := inAscii_of_letterEscape? h
    refine inAscii ?_ hc
    simp only [Text.inAscii_cons, hletter, Text.inAscii_nil, and_true]
    decide
  | unit h =>
    obtain hcontrol | ⟨hascii, -⟩ := h
    · exact inAscii (inAscii_unitEscape c.val) (by omega)
    · cases hascii
  | pair hascii => cases hascii
  | plain => simp

theorem hasSurrogate_writeText (t : Text) : (writeText false t).hasSurrogate = t.hasSurrogate := by
  have hbody : Text.hasSurrogate (t.flatMap (writeChar false)) = t.hasSurrogate := by
    induction t with
    | nil => rfl
    | cons c t ih => simp [hasSurrogate_writeChar, ih]
  simp [writeText, hbody]

end Json

namespace Value

mutual

/-- Whether a text or a key somewhere in a value has a surrogate. -/
def holdsSurrogate : Value → Bool
  | .text t => t.hasSurrogate
  | .list items | .tuple items | .set items => itemsHoldSurrogate items
  | .mapping entries => entriesHoldSurrogate entries
  | .metadata _ fields => fieldsHoldSurrogate fields
  | _ => false

def itemsHoldSurrogate : List Value → Bool
  | [] => false
  | item :: rest => holdsSurrogate item || itemsHoldSurrogate rest

def entriesHoldSurrogate : List (Value × Value) → Bool
  | [] => false
  | (key, item) :: rest => holdsSurrogate key || holdsSurrogate item || entriesHoldSurrogate rest

def fieldsHoldSurrogate : List (Text × Value) → Bool
  | [] => false
  | (key, item) :: rest => key.hasSurrogate || holdsSurrogate item || fieldsHoldSurrogate rest

end

mutual

theorem hasSurrogate_write : (j : Json) →
    (j.write false).hasSurrogate = (ofJson j).holdsSurrogate
  | .null => rfl
  | .bool b => by cases b <;> rfl
  | .int n => (Json.inAscii_ofInt n).hasSurrogate
  | .float x => by
    rw [Json.write, (Json.inAscii_writeFloat x).hasSurrogate]
    cases x <;> rfl
  | .text t => Json.hasSurrogate_writeText t
  | .array [] => rfl
  | .array (item :: rest) => by
    simp [Json.write, ofJson, ofItems, holdsSurrogate, itemsHoldSurrogate, hasSurrogate_write item,
      hasSurrogate_writeItems rest]
  | .object [] => rfl
  | .object ((key, item) :: rest) => by
    simp [Json.write, ofJson, ofMembers, holdsSurrogate, entriesHoldSurrogate,
      Json.hasSurrogate_writeText, hasSurrogate_write item, hasSurrogate_writeMembers rest,
      Bool.or_assoc]

theorem hasSurrogate_writeItems : (items : List Json) →
    (Json.writeItems false items).hasSurrogate = itemsHoldSurrogate (ofItems items)
  | [] => rfl
  | item :: rest => by
    simp [Json.writeItems, ofItems, itemsHoldSurrogate, hasSurrogate_write item,
      hasSurrogate_writeItems rest]

theorem hasSurrogate_writeMembers : (members : List (Text × Json)) →
    (Json.writeMembers false members).hasSurrogate = entriesHoldSurrogate (ofMembers members)
  | [] => rfl
  | (key, item) :: rest => by
    simp [Json.writeMembers, ofMembers, entriesHoldSurrogate, holdsSurrogate,
      Json.hasSurrogate_writeText, hasSurrogate_write item, hasSurrogate_writeMembers rest,
      Bool.or_assoc]

end

theorem holdsSurrogate_ofFields (fields : Fields Text Value) :
    (ofFields fields).holdsSurrogate =
      fields.any fun (key, v) => key.hasSurrogate || v.holdsSurrogate := by
  rw [ofFields, holdsSurrogate]
  induction fields with
  | nil => rfl
  | cons field rest ih =>
    obtain ⟨key, v⟩ := field
    simp only [List.map_cons, entriesHoldSurrogate, holdsSurrogate, List.any_cons, ih]

end Value

end ClientRegistration
