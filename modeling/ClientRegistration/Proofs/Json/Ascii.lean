import ClientRegistration.Proofs.Json.Strings
import ClientRegistration.Proofs.Text.Ascii
namespace ClientRegistration.Json

open Numeral (fractionText exponentText)

theorem inAscii_unitEscape (n : Nat) : (unitEscape n).InAscii := by
  simp only [unitEscape_eq, Text.inAscii_cons, Text.inAscii_hexDigit, Text.inAscii_nil, and_true]
  decide

theorem inAscii_of_letterEscape? {e x : CodePoint} (h : letterEscape? e = some x) :
    (0x20 ≤ e.val ∧ e.val ≤ 0x7E) ∧ x.val ≤ 0x7E := by
  have known {c d : CodePoint} (hd : some d = some x) (hc : e = c)
      (hcd : (0x20 ≤ c.val ∧ c.val ≤ 0x7E) ∧ d.val ≤ 0x7E) :
      (0x20 ≤ e.val ∧ e.val ≤ 0x7E) ∧ x.val ≤ 0x7E := by
    rw [hc, ← Option.some.inj hd]
    exact hcd
  rw [letterEscape?] at h
  repeat'
    split at h
    · next he => exact known h he (by decide)
  cases h

theorem inAscii_fractionText {fraction : Text} (h : Text.AllDigits fraction) :
    (fractionText fraction).InAscii := by
  cases fraction with
  | nil => exact Text.inAscii_nil
  | cons c fraction => exact (Text.inAscii_cons _ _).2 ⟨by decide, h.inAscii⟩

theorem inAscii_exponentText {exponent : Option (Bool × Text)}
    (h : ∀ negative digits, exponent = some (negative, digits) →
      Text.AllDigits digits ∧ digits ≠ []) : (exponentText exponent).InAscii := by
  cases exponent with
  | none => exact Text.inAscii_nil
  | some signed =>
    obtain ⟨negative, digits⟩ := signed
    have hdigits := (h negative digits rfl).1.inAscii
    cases negative <;>
    · simp only [exponentText, Text.inAscii_cons, hdigits, and_true]
      decide

theorem Numeral.Proper.inAscii_text {n : Numeral} (h : n.Proper) : n.text.InAscii := by
  have hsign : Text.InAscii (if n.negative then [('-' : CodePoint)] else []) := by
    cases n.negative <;> decide
  simp only [text, Text.inAscii_append]
  exact ⟨hsign, h.whole_digits.inAscii, inAscii_fractionText h.fraction_digits,
    inAscii_exponentText h.exponent_digits⟩

theorem inAscii_ofInt (n : Int) : (Text.ofInt n).InAscii := by
  rw [← Numeral.text_ofInt]
  exact (Numeral.proper_ofInt n).inAscii_text

theorem inAscii_textOfFields (negative : Bool) (exponent : Fin 2047)
    (fraction : Fin (Nat.pow 2 52)) :
    (Binary64.textOfFields negative exponent fraction).InAscii := by
  obtain ⟨n, hproper, htext, -⟩ := exists_numeral negative exponent fraction
  rw [← htext]
  exact hproper.inAscii_text

theorem inAscii_writeFloat (x : Binary64) : (writeFloat x).InAscii := by
  cases x with
  | nan => decide
  | infinity negative => cases negative <;> decide
  | finite negative exponent fraction => exact inAscii_textOfFields negative exponent fraction

theorem inAscii_writeChar (c : CodePoint) : (writeChar true c).InAscii := by
  have hwritten := written_writeChar true c
  generalize writeChar true c = w at hwritten
  cases hwritten with
  | letter he h =>
    simp only [Text.inAscii_cons, inAscii_of_letterEscape? h, Text.inAscii_nil, and_true]
    decide
  | unit h => exact inAscii_unitEscape c.val
  | pair _ h => exact (Text.inAscii_append _ _).2 ⟨inAscii_unitEscape _, inAscii_unitEscape _⟩
  | plain _ _ hcontrol h => exact (Text.inAscii_cons _ _).2 ⟨⟨hcontrol, h rfl⟩, Text.inAscii_nil⟩

theorem inAscii_writeText (t : Text) : (writeText true t).InAscii := by
  have hbody : Text.InAscii (t.flatMap (writeChar true)) := by
    intro c hc
    obtain ⟨d, -, hd⟩ := List.mem_flatMap.1 hc
    exact inAscii_writeChar d c hd
  simp only [writeText, Text.inAscii_append, hbody]
  decide

mutual

theorem inAscii_write : (j : Json) → (j.write true).InAscii
  | .null => by decide
  | .bool b => by cases b <;> decide
  | .int n => inAscii_ofInt n
  | .float x => inAscii_writeFloat x
  | .text t => inAscii_writeText t
  | .array [] => by decide
  | .array (item :: rest) => by
    simp only [write, Text.inAscii_append, inAscii_write item, inAscii_writeItems rest]
    decide
  | .object [] => by decide
  | .object ((key, item) :: rest) => by
    simp only [write, Text.inAscii_append, inAscii_writeText, inAscii_write item,
      inAscii_writeMembers rest]
    decide

theorem inAscii_writeItems : (items : List Json) → (writeItems true items).InAscii
  | [] => Text.inAscii_nil
  | item :: rest => by
    simp only [writeItems, Text.inAscii_append, inAscii_write item, inAscii_writeItems rest]
    decide

theorem inAscii_writeMembers : (members : List (Text × Json)) →
    (writeMembers true members).InAscii
  | [] => Text.inAscii_nil
  | (key, item) :: rest => by
    simp only [writeMembers, Text.inAscii_append, inAscii_writeText, inAscii_write item,
      inAscii_writeMembers rest]
    decide

end

end ClientRegistration.Json
