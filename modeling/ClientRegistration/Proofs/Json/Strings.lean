import ClientRegistration.Proofs.Json.Number
import ClientRegistration.Proofs.Result
namespace ClientRegistration.Json

section

variable {opening s t rest : Text}

theorem stringBody_quote (opening rest : Text) :
    stringBody opening (('"' : CodePoint) :: rest) = .ok ([], rest) := by
  rw [stringBody.eq_def]
  simp

theorem stringBody_plain {c : CodePoint} (hquote : c ≠ '"') (hslash : c ≠ '\\')
    (hcontrol : 0x20 ≤ c.val) (h : stringBody opening s = .ok (t, rest)) :
    stringBody opening (c :: s) = .ok (c :: t, rest) := by
  rw [stringBody.eq_def]
  simp only [hquote, hslash, Nat.not_lt.2 hcontrol, ↓reduceIte, h]
  rfl

theorem stringBody_letter {e x : CodePoint} (he : e ≠ 'u') (hx : letterEscape? e = some x)
    (h : stringBody opening s = .ok (t, rest)) :
    stringBody opening (('\\' : CodePoint) :: e :: s) = .ok (x :: t, rest) := by
  rw [stringBody.eq_def]
  simp [he, hx, h]

theorem unitEscape_eq (n : Nat) :
    unitEscape n = [('\\' : CodePoint), ('u' : CodePoint), Text.hexDigit (n / 16 / 16 / 16),
      Text.hexDigit (n / 16 / 16), Text.hexDigit (n / 16), Text.hexDigit n] := rfl

theorem hex4?_hexDigit {n : Nat} (h : n < 0x10000) :
    hex4? (Text.hexDigit (n / 16 / 16 / 16)) (Text.hexDigit (n / 16 / 16)) (Text.hexDigit (n / 16))
      (Text.hexDigit n) = some n := by
  simp only [hex4?, Text.hexValue?_hexDigit, Option.bind_eq_bind, Option.bind_some]
  congr 1
  omega

theorem exists_cons_of_stringBody (h : stringBody opening s = .ok (t, rest)) :
    ∃ next tail, s = next :: tail := by
  cases s with
  | nil =>
    rw [stringBody.eq_def] at h
    cases h
  | cons next tail => exact ⟨next, tail, rfl⟩

theorem stringBody_unit {n : Nat} (hn : n < 0x10000)
    (hlow : lowSurrogate? (CodePoint.ofNat n) s = none)
    (h : stringBody opening s = .ok (t, rest)) :
    stringBody opening (unitEscape n ++ s) = .ok (CodePoint.ofNat n :: t, rest) := by
  obtain ⟨next, tail, rfl⟩ := exists_cons_of_stringBody h
  rw [unitEscape_eq, stringBody.eq_def]
  simp [hex4?_hexDigit hn, hlow, h]

theorem stringBody_pair (high low : Nat) (hn : high < 0x10000) (hm : low < 0x10000)
    (hhigh : (CodePoint.ofNat high).isHighSurrogate = true)
    (hlow : (CodePoint.ofNat low).isLowSurrogate = true)
    (h : stringBody opening s = .ok (t, rest)) :
    stringBody opening (unitEscape high ++ (unitEscape low ++ s)) =
      .ok (CodePoint.joinSurrogates (CodePoint.ofNat high) (CodePoint.ofNat low) :: t, rest) := by
  obtain ⟨next, tail, rfl⟩ := exists_cons_of_stringBody h
  rw [unitEscape_eq, unitEscape_eq, stringBody.eq_def]
  simp [hex4?_hexDigit hn, hex4?_hexDigit hm, lowSurrogate?, hhigh, hlow, h]

end

theorem lowSurrogate?_of_not_high {c : CodePoint} (h : c.isHighSurrogate = false) (s : Text) :
    lowSurrogate? c s = none := by
  unfold lowSurrogate?
  split
  · simp [h]
  · rfl

theorem stringBody_astral {c : CodePoint} {opening s t rest : Text} (hc : 0x10000 ≤ c.val)
    (h : stringBody opening s = .ok (t, rest)) :
    stringBody opening (unitEscape (0xD800 + (c.val - 0x10000) / 0x400) ++
      unitEscape (0xDC00 + (c.val - 0x10000) % 0x400) ++ s) = .ok (c :: t, rest) := by
  have hlt := c.val_lt
  have hhigh : (CodePoint.ofNat (0xD800 + (c.val - 0x10000) / 0x400)).val =
      0xD800 + (c.val - 0x10000) / 0x400 := CodePoint.val_ofNat (by omega)
  have hlow : (CodePoint.ofNat (0xDC00 + (c.val - 0x10000) % 0x400)).val =
      0xDC00 + (c.val - 0x10000) % 0x400 := CodePoint.val_ofNat (by omega)
  have hjoin : CodePoint.joinSurrogates (CodePoint.ofNat (0xD800 + (c.val - 0x10000) / 0x400))
      (CodePoint.ofNat (0xDC00 + (c.val - 0x10000) % 0x400)) = c := by
    have hsum : 0x10000 + (0xD800 + (c.val - 0x10000) / 0x400 - 0xD800) * 0x400 +
        (0xDC00 + (c.val - 0x10000) % 0x400 - 0xDC00) = c.val := by omega
    rw [CodePoint.joinSurrogates, hhigh, hlow, hsum, CodePoint.ofNat_val]
  rw [List.append_assoc, stringBody_pair _ _ (by omega) (by omega) _ _ h, hjoin]
  · rw [CodePoint.isHighSurrogate, hhigh, Bool.and_eq_true, decide_eq_true_eq, decide_eq_true_eq]
    omega
  · rw [CodePoint.isLowSurrogate, hlow, Bool.and_eq_true, decide_eq_true_eq, decide_eq_true_eq]
    omega

/-- The ways in which a character is written: by a letter, by its number, by the numbers of the two
surrogates which stand for it, or as it is. -/
inductive Written (ascii : Bool) (c : CodePoint) : Text → Prop
  | letter {e : CodePoint} (he : e ≠ 'u') (h : letterEscape? e = some c) :
      Written ascii c [('\\' : CodePoint), e]
  | unit (h : c.val < 0x20 ∨ ascii = true ∧ 0x7E < c.val ∧ c.val < 0x10000) :
      Written ascii c (unitEscape c.val)
  | pair (hascii : ascii = true) (h : 0x10000 ≤ c.val) :
      Written ascii c (unitEscape (0xD800 + (c.val - 0x10000) / 0x400) ++
        unitEscape (0xDC00 + (c.val - 0x10000) % 0x400))
  | plain (hquote : c ≠ '"') (hslash : c ≠ '\\') (hcontrol : 0x20 ≤ c.val)
      (h : ascii = true → c.val ≤ 0x7E) : Written ascii c [c]

theorem written_writeChar (ascii : Bool) (c : CodePoint) :
    Written ascii c (writeChar ascii c) := by
  have letter {d e : CodePoint} (he : e ≠ 'u') (h : letterEscape? e = some d) (hc : c = d) :
      Written ascii c [('\\' : CodePoint), e] := .letter he (hc ▸ h)
  have numbered {n : Nat} (h : c.val = n) : c = CodePoint.ofNat n := by
    rw [← h, CodePoint.ofNat_val]
  rw [writeChar]
  split
  · next hc => exact letter (by decide) (by decide) hc
  split
  · next hc => exact letter (by decide) (by decide) hc
  split
  · next hc => exact letter (by decide) (by decide) hc
  split
  · next hc => exact letter (by decide) (by decide) hc
  split
  · next hc => exact letter (by decide) (by decide) hc
  split
  · next hc => exact letter (by decide) (by decide) (numbered hc)
  split
  · next hc => exact letter (by decide) (by decide) (numbered hc)
  split
  · next hc => exact .unit (.inl hc)
  split
  · next habove =>
    rw [Bool.and_eq_true, decide_eq_true_eq] at habove
    split
    · next hn => exact .unit (.inr ⟨habove.1, habove.2, hn⟩)
    · next hn => exact .pair habove.1 (by omega)
  · next hquote hslash _ _ _ _ _ hcontrol habove =>
    rw [Bool.and_eq_true, decide_eq_true_eq] at habove
    exact .plain hquote hslash (by omega) fun hascii => Nat.not_lt.1 fun h => habove ⟨hascii, h⟩

/-- A character is read as it was written, unless what follows makes an escaped surrogate one half
of a pair. -/
theorem stringBody_writeChar {ascii : Bool} {c : CodePoint} {opening s t rest : Text}
    (hlow : ascii = true → lowSurrogate? c s = none)
    (h : stringBody opening s = .ok (t, rest)) :
    stringBody opening (writeChar ascii c ++ s) = .ok (c :: t, rest) := by
  have hunit (hn : c.val < 0x10000) (hlow : lowSurrogate? c s = none) :
      stringBody opening (unitEscape c.val ++ s) = .ok (c :: t, rest) := by
    have hback := stringBody_unit hn (by rwa [CodePoint.ofNat_val]) h
    rwa [CodePoint.ofNat_val] at hback
  have hwritten := written_writeChar ascii c
  generalize writeChar ascii c = w at hwritten
  cases hwritten with
  | letter he hletter => exact stringBody_letter he hletter h
  | unit hc =>
    obtain hcontrol | ⟨hascii, -, hn⟩ := hc
    · refine hunit (by omega) (lowSurrogate?_of_not_high ?_ s)
      rw [CodePoint.isHighSurrogate, Bool.and_eq_false_iff, decide_eq_false_iff_not]
      omega
    · exact hunit hn (hlow hascii)
  | pair _ hc => exact stringBody_astral hc h
  | plain hquote hslash hcontrol _ => exact stringBody_plain hquote hslash hcontrol h

def ReadsBack (ascii : Bool) (t : Text) : Prop :=
  ∀ opening rest, stringBody opening (t.flatMap (writeChar ascii) ++ ('"' : CodePoint) :: rest) =
    .ok (t, rest)

theorem readsBack_unicode (t : Text) : ReadsBack false t := by
  intro opening rest
  induction t with
  | nil => exact stringBody_quote opening rest
  | cons c t ih =>
    rw [List.flatMap_cons, List.append_assoc]
    exact stringBody_writeChar (fun hascii => nomatch hascii) ih

end ClientRegistration.Json
