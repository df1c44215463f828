import ClientRegistration.Proofs.Json.Objects
import ClientRegistration.Value.Literal
namespace ClientRegistration

open Json (Escapes StartsWith isForeign)

namespace Text

theorem hexDigit_plain (n : Nat) :
    hexDigit n ≠ ('"' : CodePoint) ∧ hexDigit n ≠ ('\\' : CodePoint) := by
  have hvalue := hexValue?_hexDigit n
  constructor <;>
  · intro h
    rw [h] at hvalue
    cases hvalue

theorem escapes_hex (width n : Nat) : Escapes (hex width n) := by
  induction width generalizing n with
  | zero => exact .nil
  | succ width ih =>
    obtain ⟨quote, slash⟩ := hexDigit_plain n
    exact (ih (n / 16)).append (.plain quote slash .nil)

theorem escapes_escaped (c : CodePoint) : Escapes (escaped '"' c) := by
  rw [escaped]
  split
  · next h =>
    rw [Bool.or_eq_true, decide_eq_true_eq, decide_eq_true_eq] at h
    obtain rfl | rfl := h <;> exact .letter (by decide) .nil
  · next hmark =>
    simp only [Bool.or_eq_true, decide_eq_true_eq, not_or] at hmark
    split
    · exact .letter (by decide) .nil
    split
    · exact .letter (by decide) .nil
    split
    · exact .letter (by decide) .nil
    split
    · exact .plain hmark.1 hmark.2 .nil
    split
    · exact .letter (by decide) (escapes_hex 2 c.val)
    split
    · exact .unit .nil
    · exact .letter (by decide) (escapes_hex 8 c.val)

theorem escapes_flatMap (t : Text) : Escapes (t.flatMap (escaped '"')) := by
  induction t with
  | nil => exact .nil
  | cons c t ih =>
    rw [List.flatMap_cons]
    exact (escapes_escaped c).append ih

theorem exists_of_quoted (t : Text) :
    (∃ tail, quoted t = ('\'' : CodePoint) :: tail) ∨
      ∃ s, Escapes s ∧ quoted t = ('"' : CodePoint) :: (s ++ [('"' : CodePoint)]) := by
  rw [quoted, quotationMark]
  split
  · exact .inr ⟨_, escapes_flatMap t, rfl⟩
  · exact .inl ⟨_, rfl⟩

end Text

namespace Value

theorem startsWith_foreign_floatText (x : Binary64) : StartsWith isForeign (floatText x) := by
  cases x with
  | nan => exact ⟨_, _, rfl, by decide⟩
  | infinity negative => cases negative <;> exact ⟨_, _, rfl, by decide⟩
  | finite negative exponent fraction =>
    exact (Json.startsWith_scalar_writeFloat (.finite negative exponent fraction)).imp
      Json.isForeign_of_startsScalar

/-- A value is shown with a character in front which is in no object's start, but for text,
mappings and sets that hold something. -/
theorem literal_cases (v : Value) :
    StartsWith isForeign v.literal ∨ (∃ t, v = .text t) ∨ (∃ entries, v = .mapping entries) ∨
      ∃ item rest, v = .set (item :: rest) := by
  have foreign {c : CodePoint} {tail : Text} (heq : v.literal = c :: tail)
      (hc : isForeign c = true) : StartsWith isForeign v.literal := ⟨c, tail, heq, hc⟩
  cases v with
  | text t => exact .inr (.inl ⟨t, rfl⟩)
  | mapping entries => exact .inr (.inr (.inl ⟨entries, rfl⟩))
  | set items =>
    cases items with
    | nil => exact .inl (foreign rfl (by decide))
    | cons item rest => exact .inr (.inr (.inr ⟨item, rest, rfl⟩))
  | int n => exact .inl ((Json.startsWith_scalar_ofInt n).imp Json.isForeign_of_startsScalar)
  | float x => exact .inl (startsWith_foreign_floatText x)
  | bool b => cases b <;> exact .inl (foreign rfl (by decide))
  | bytes kind content => cases kind <;> exact .inl (foreign rfl (by decide))
  | tuple items =>
    match items with
    | [] | [_] | _ :: _ :: _ => exact .inl (foreign rfl (by decide))
  | null | documentNaN | list items | metadata source fields | endpoint e =>
    exact .inl (foreign rfl (by decide))

theorem exists_of_literals (item : Value) (rest : List Value) (closing : CodePoint) :
    ∃ c tail, literals (item :: rest) ++ [closing] = item.literal ++ c :: tail ∧
      (c = (',' : CodePoint) ∨ c = closing) := by
  cases rest with
  | nil => exact ⟨closing, [], rfl, .inr rfl⟩
  | cons next rest =>
    refine ⟨',', ' ' :: (literals (next :: rest) ++ [closing]), ?_, .inl rfl⟩
    rw [literals, List.append_assoc, List.append_assoc]
    · rfl
    · exact List.cons_ne_nil _ _

theorem not_isObjectText_literal_set (item : Value) (rest : List Value) :
    ¬Json.IsObjectText (literal (.set (item :: rest))) := by
  obtain ⟨c, tail, hliterals, hc⟩ := exists_of_literals item rest '}'
  have hset : literal (.set (item :: rest)) = ('{' : CodePoint) :: (item.literal ++ c :: tail) := by
    rw [← hliterals]
    rfl
  have hbehind : Json.isBlank c = false ∧ c ≠ ':' := by
    obtain rfl | rfl := hc <;> decide
  rw [hset]
  obtain ⟨d, tail', hd, hforeign⟩ | ⟨t, rfl⟩ | ⟨entries, rfl⟩ | ⟨first, others, rfl⟩ :=
    literal_cases item
  · rw [hd]
    exact Json.not_isObjectText_of_brace (.inr hforeign)
  · rw [literal]
    obtain ⟨tail', hquoted⟩ | ⟨s, hs, hquoted⟩ := Text.exists_of_quoted t
    · rw [hquoted]
      exact Json.not_isObjectText_of_brace (.inr (by decide))
    · rw [hquoted, List.cons_append, List.append_assoc]
      exact Json.not_isObjectText_of_string hs hbehind.1 hbehind.2
  · exact Json.not_isObjectText_of_brace (.inl rfl)
  · exact Json.not_isObjectText_of_brace (.inl rfl)

theorem not_isObjectText_toText {v : Value} (noText : ∀ t, v ≠ .text t)
    (noMapping : ∀ entries, v ≠ .mapping entries) : ¬Json.IsObjectText v.toText := by
  by_cases hendpoint : ∃ e, v = .endpoint e
  · obtain ⟨e, rfl⟩ := hendpoint
    exact Json.not_isObjectText_of_isForeign ⟨_, _, rfl, by decide⟩
  rw [toText]
  · obtain hforeign | ⟨t, rfl⟩ | ⟨entries, rfl⟩ | ⟨item, rest, rfl⟩ := literal_cases v
    · exact Json.not_isObjectText_of_isForeign hforeign
    · exact absurd rfl (noText t)
    · exact absurd rfl (noMapping entries)
    · exact not_isObjectText_literal_set item rest
  · exact noText
  · exact fun e he => hendpoint ⟨e, he⟩

end Value

end ClientRegistration
