import ClientRegistration.Proofs.Json.Ascii
namespace ClientRegistration

namespace CodePoint

variable {c d : CodePoint}

theorem isHighSurrogate_iff : c.isHighSurrogate = true ↔ 0xD800 ≤ c.val ∧ c.val ≤ 0xDBFF := by
  rw [isHighSurrogate, Bool.and_eq_true, decide_eq_true_eq, decide_eq_true_eq]

theorem isLowSurrogate_iff : c.isLowSurrogate = true ↔ 0xDC00 ≤ c.val ∧ c.val ≤ 0xDFFF := by
  rw [isLowSurrogate, Bool.and_eq_true, decide_eq_true_eq, decide_eq_true_eq]

theorem isSurrogate_iff : c.isSurrogate = true ↔ 0xD800 ≤ c.val ∧ c.val ≤ 0xDFFF := by
  rw [isSurrogate, Bool.and_eq_true, decide_eq_true_eq, decide_eq_true_eq]

def Pairs (c d : CodePoint) : Prop := c.isHighSurrogate = true ∧ d.isLowSurrogate = true

instance (c d : CodePoint) : Decidable (c.Pairs d) := inferInstanceAs (Decidable (_ ∧ _))

theorem Pairs.isSurrogate (h : c.Pairs d) : c.isSurrogate = true ∧ d.isSurrogate = true := by
  have hhigh := isHighSurrogate_iff.1 h.1
  have hlow := isLowSurrogate_iff.1 h.2
  exact ⟨isSurrogate_iff.2 (by omega), isSurrogate_iff.2 (by omega)⟩

theorem Pairs.le_val_joinSurrogates (h : c.Pairs d) : 0x10000 ≤ (joinSurrogates c d).val := by
  have hhigh := isHighSurrogate_iff.1 h.1
  have hlow := isLowSurrogate_iff.1 h.2
  rw [joinSurrogates, val_ofNat] <;> omega

end CodePoint

namespace Text

def Unpaired (t : Text) : Prop := t.IsChain fun c d => ¬c.Pairs d

instance : DecidablePred Unpaired := fun t => inferInstanceAs (Decidable (t.IsChain _))

/-- A text with every pair of surrogates replaced by the character which it stands for. -/
def joined : Text → Text
  | [] => []
  | [c] => [c]
  | c :: d :: rest =>
    if c.isHighSurrogate && d.isLowSurrogate then CodePoint.joinSurrogates c d :: joined rest
    else c :: joined (d :: rest)

theorem joined_of_pairs {c d : CodePoint} (h : c.Pairs d) (rest : Text) :
    joined (c :: d :: rest) = CodePoint.joinSurrogates c d :: joined rest := by
  rw [joined, h.1, h.2]
  rfl

theorem joined_of_not_pairs {c d : CodePoint} (h : ¬c.Pairs d) (rest : Text) :
    joined (c :: d :: rest) = c :: joined (d :: rest) := by
  rw [joined, if_neg]
  rwa [Bool.and_eq_true]

theorem joined_eq_self_iff {t : Text} : t.joined = t ↔ t.Unpaired := by
  induction t with
  | nil => exact iff_of_true rfl .nil
  | cons c t ih =>
    cases t with
    | nil => exact iff_of_true rfl (.singleton c)
    | cons d rest =>
      rw [Unpaired, List.isChain_cons_cons]
      by_cases h : c.Pairs d
      · refine iff_of_false ?_ fun hchain => hchain.1 h
        intro heq
        rw [joined_of_pairs h] at heq
        have hjoin := h.le_val_joinSurrogates
        rw [(List.cons.inj heq).1] at hjoin
        have hhigh := CodePoint.isHighSurrogate_iff.1 h.1
        omega
      · rw [joined_of_not_pairs h, List.cons.injEq, ih, Unpaired]
        simp [h]

theorem InAscii.unpaired {t : Text} (h : t.InAscii) : t.Unpaired := by
  induction t with
  | nil => exact .nil
  | cons c t ih =>
    obtain ⟨hc, ht⟩ := (inAscii_cons c t).1 h
    cases t with
    | nil => exact .singleton c
    | cons d rest =>
      refine .cons_cons (fun hpairs => ?_) (ih ht)
      have hhigh := CodePoint.isHighSurrogate_iff.1 hpairs.1
      omega

end Text

namespace Json

section

variable {c d : CodePoint} {s : Text}

theorem lowSurrogate?_of_ne_slash (h : d ≠ '\\') : lowSurrogate? c (d :: s) = none := by
  unfold lowSurrogate?
  split
  · next heq =>
    obtain ⟨rfl, -⟩ := List.cons.inj heq
    simp [h]
  · rfl

theorem lowSurrogate?_of_letter (h : d ≠ 'u') :
    lowSurrogate? c (('\\' : CodePoint) :: d :: s) = none := by
  unfold lowSurrogate?
  split
  · next heq =>
    obtain ⟨-, heq⟩ := List.cons.inj heq
    obtain ⟨rfl, -⟩ := List.cons.inj heq
    simp [h]
  · rfl

theorem lowSurrogate?_of_not_low {n : Nat} (hn : n < 0x10000)
    (h : (CodePoint.ofNat n).isLowSurrogate = false) :
    lowSurrogate? c (unitEscape n ++ s) = none := by
  cases s with
  | nil => rfl
  | cons next tail =>
    rw [unitEscape_eq]
    simp [lowSurrogate?, hex4?_hexDigit hn, h]

/-- The low half of a pair can only be read from one that has been written as such. -/
theorem lowSurrogate?_writeChar (h : ¬c.Pairs d) (s : Text) :
    lowSurrogate? c (writeChar true d ++ s) = none := by
  cases hhigh : c.isHighSurrogate with
  | false => exact lowSurrogate?_of_not_high hhigh _
  | true =>
    have hlow : d.isLowSurrogate = false := by
      rw [Bool.eq_false_iff]
      exact fun hlow => h ⟨hhigh, hlow⟩
    have hwritten := written_writeChar true d
    generalize writeChar true d = w at hwritten
    cases hwritten with
    | letter he _ => exact lowSurrogate?_of_letter he
    | unit hd =>
      refine lowSurrogate?_of_not_low (by omega) ?_
      rwa [CodePoint.ofNat_val]
    | pair _ hd =>
      have hlt := d.val_lt
      rw [List.append_assoc]
      refine lowSurrogate?_of_not_low (by omega) ?_
      rw [Bool.eq_false_iff, ne_eq, CodePoint.isLowSurrogate_iff, CodePoint.val_ofNat (by omega)]
      omega
    | plain _ hslash _ _ => exact lowSurrogate?_of_ne_slash hslash

theorem writeChar_of_surrogate (h : c.isSurrogate = true) :
    writeChar true c = unitEscape c.val := by
  rw [CodePoint.isSurrogate_iff] at h
  have hwritten := written_writeChar true c
  generalize writeChar true c = w at hwritten
  cases hwritten with
  | letter _ hletter =>
    have hascii := (inAscii_of_letterEscape? hletter).2
    omega
  | unit _ => rfl
  | pair _ hc => omega
  | plain _ _ _ hc =>
    have hascii := hc rfl
    omega

end

/-- What is read from a text written in ASCII is the text with its pairs joined. -/
theorem stringBody_ascii (opening rest : Text) : (t : Text) →
    stringBody opening (t.flatMap (writeChar true) ++ ('"' : CodePoint) :: rest) =
      .ok (t.joined, rest)
  | [] => stringBody_quote opening rest
  | [c] => by
    rw [List.flatMap_cons, List.append_assoc]
    exact stringBody_writeChar (fun _ => lowSurrogate?_of_ne_slash (by decide))
      (stringBody_quote opening rest)
  | c :: d :: tail => by
    rw [List.flatMap_cons, List.append_assoc]
    by_cases h : c.Pairs d
    · have hhigh := CodePoint.isHighSurrogate_iff.1 h.1
      have hlow := CodePoint.isLowSurrogate_iff.1 h.2
      have hpair := stringBody_pair c.val d.val (by omega) (by omega)
        (by rw [CodePoint.ofNat_val]; exact h.1) (by rw [CodePoint.ofNat_val]; exact h.2)
        (stringBody_ascii opening rest tail)
      rw [CodePoint.ofNat_val, CodePoint.ofNat_val] at hpair
      rw [List.flatMap_cons, List.append_assoc, writeChar_of_surrogate h.isSurrogate.1,
        writeChar_of_surrogate h.isSurrogate.2, hpair, Text.joined_of_pairs h]
    · rw [Text.joined_of_not_pairs h]
      refine stringBody_writeChar (fun _ => ?_) (stringBody_ascii opening rest (d :: tail))
      rw [List.flatMap_cons, List.append_assoc]
      exact lowSurrogate?_writeChar h _

/-- A text is read again from ASCII iff none of its surrogates are a pair. -/
theorem readsBack_ascii_iff {t : Text} : ReadsBack true t ↔ t.Unpaired := by
  rw [← Text.joined_eq_self_iff]
  constructor
  · intro h
    have hback := h [] []
    rw [stringBody_ascii] at hback
    exact congrArg Prod.fst (Except.ok.inj hback)
  · intro h opening rest
    rw [stringBody_ascii, h]

theorem readsBack_of_inAscii (ascii : Bool) {t : Text} (h : t.InAscii) : ReadsBack ascii t := by
  cases ascii with
  | false => exact readsBack_unicode t
  | true => exact readsBack_ascii_iff.2 h.unpaired

end Json

end ClientRegistration
