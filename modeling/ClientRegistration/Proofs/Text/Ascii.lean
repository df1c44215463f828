import ClientRegistration.Proofs.Text.Utf8
namespace ClientRegistration

namespace Text

def InAscii (t : Text) : Prop := ∀ c ∈ t, 0x20 ≤ c.val ∧ c.val ≤ 0x7E

instance : DecidablePred InAscii := fun t => inferInstanceAs (Decidable (∀ c ∈ t, _ ∧ _))

@[simp] theorem inAscii_nil : InAscii [] := nofun

@[simp] theorem inAscii_cons (c : CodePoint) (t : Text) :
    InAscii (c :: t) ↔ (0x20 ≤ c.val ∧ c.val ≤ 0x7E) ∧ t.InAscii := List.forall_mem_cons

@[simp] theorem inAscii_append (t u : Text) : InAscii (t ++ u) ↔ t.InAscii ∧ u.InAscii :=
  List.forall_mem_append

theorem AllDigits.inAscii {t : Text} (h : AllDigits t) : t.InAscii := by
  intro c hc
  have hdigit := h c hc
  rw [isDigit, Bool.and_eq_true, decide_eq_true_eq, decide_eq_true_eq] at hdigit
  omega

theorem inAscii_hexDigit (n : Nat) : 0x20 ≤ (hexDigit n).val ∧ (hexDigit n).val ≤ 0x7E := by
  have all : ∀ d < 16, 0x20 ≤ (CodePoint.ofChar (Nat.digitChar d)).val ∧
      (CodePoint.ofChar (Nat.digitChar d)).val ≤ 0x7E := by decide
  exact all _ (Nat.mod_lt _ (by decide))

end Text

namespace Charset

theorem knows_of_ascii (charset : Charset) {c : CodePoint} (h : c.val ≤ 0x7E) :
    charset.knows c = true := by
  cases charset with
  | utf8 =>
    rw [knows, CodePoint.isSurrogate_eq_false_iff.2 (by omega)]
    rfl
  | ascii => exact decide_eq_true (by omega)
  | latin1 => exact decide_eq_true (by omega)

theorem encodeChar_of_ascii (charset : Charset) {c : CodePoint} (h : c.val ≤ 0x7E) :
    charset.encodeChar c = [UInt8.ofNat c.val] := by
  cases charset with
  | utf8 => exact if_pos (by omega)
  | ascii => rfl
  | latin1 => rfl

theorem encode_strict_of_inAscii (charset : Charset) {t : Text} (h : t.InAscii) :
    charset.encode .strict t = .ok (t.map fun c => UInt8.ofNat c.val) := by
  refine encode_strict_iff.2 ⟨fun c hc => charset.knows_of_ascii (h c hc).2, ?_⟩
  induction t with
  | nil => rfl
  | cons c t ih =>
    obtain ⟨hc, ht⟩ := (Text.inAscii_cons c t).1 h
    rw [List.flatMap_cons, charset.encodeChar_of_ascii hc.2, ih ht]
    rfl

end Charset

end ClientRegistration
