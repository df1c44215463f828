import ClientRegistration.Json.Reader
import ClientRegistration.Json.Writer
import ClientRegistration.Proofs.Binary64.ReadBack
namespace ClientRegistration.Json

open Text (AllDigits NoDigit isDigit)

/-- What may follow a value in a document without blanks. -/
def Closed (rest : Text) : Prop :=
  ∀ c ∈ rest.head?, c = (',' : CodePoint) ∨ c = (']' : CodePoint) ∨ c = ('}' : CodePoint)

theorem closed_nil : Closed [] := by simp [Closed]

theorem Closed.not_head {rest : Text} (h : Closed rest) {p : CodePoint → Bool}
    (hp : p ',' = false ∧ p ']' = false ∧ p '}' = false) : ∀ c ∈ rest.head?, p c = false := by
  intro c hc
  obtain rfl | rfl | rfl := h c hc
  · exact hp.1
  · exact hp.2.1
  · exact hp.2.2

theorem Closed.noDigit {rest : Text} (h : Closed rest) : NoDigit rest :=
  h.not_head (by decide)

theorem eat?_self (c : Char) (rest : Text) : eat? c ((c : CodePoint) :: rest) = some rest :=
  if_pos rfl

theorem eat?_eq_none {c : Char} {s : Text} (h : ∀ x ∈ s.head?, (x == (c : CodePoint)) = false) :
    eat? c s = none := by
  cases s with
  | nil => rfl
  | cons x rest => exact if_neg (by simpa using h x rfl)

theorem Closed.eat?_eq_none {rest : Text} (h : Closed rest) {c : Char}
    (hc : ((',' : CodePoint) == (c : CodePoint)) = false ∧
      ((']' : CodePoint) == (c : CodePoint)) = false ∧
      (('}' : CodePoint) == (c : CodePoint)) = false) : eat? c rest = none :=
  Json.eat?_eq_none (h.not_head hc)

theorem eat?_digits_eq_none {c : Char} (hc : isDigit c = false) {digits : Text}
    (hd : AllDigits digits) (hne : digits ≠ []) (rest : Text) :
    eat? c (digits ++ rest) = none := by
  cases digits with
  | nil => exact absurd rfl hne
  | cons d ds =>
    have hdigit := hd d (by simp)
    refine if_neg ?_
    rintro rfl
    rw [hc] at hdigit
    cases hdigit

namespace Numeral

def fractionText (fraction : Text) : Text :=
  if fraction.isEmpty then [] else ('.' : CodePoint) :: fraction

def exponentText : Option (Bool × Text) → Text
  | none => []
  | some (negative, digits) =>
    ('e' : CodePoint) :: (if negative then ('-' : CodePoint) else ('+' : CodePoint)) :: digits

def text (n : Numeral) : Text :=
  (if n.negative then [('-' : CodePoint)] else []) ++
    (n.whole ++ (fractionText n.fraction ++ exponentText n.exponent))

/-- The parts of a numeral are digits, and its whole part has no leading zeros. -/
structure Proper (n : Numeral) : Prop where
  whole_digits : AllDigits n.whole
  whole_ne_nil : n.whole ≠ []
  whole_zero : ∀ rest, n.whole = ('0' : CodePoint) :: rest → rest = []
  fraction_digits : AllDigits n.fraction
  exponent_digits : ∀ negative digits, n.exponent = some (negative, digits) →
    AllDigits digits ∧ digits ≠ []

end Numeral

open Numeral (fractionText exponentText)

theorem wholePart?_append {whole rest : Text} (hd : AllDigits whole) (hne : whole ≠ [])
    (hz : ∀ tail, whole = ('0' : CodePoint) :: tail → tail = []) (hr : NoDigit rest) :
    wholePart? (whole ++ rest) = some (whole, rest) := by
  cases whole with
  | nil => exact absurd rfl hne
  | cons c tail =>
    by_cases hc : c = ('0' : CodePoint)
    · subst hc
      rw [hz tail rfl]
      simp [wholePart?]
    · rw [List.cons_append, wholePart?, if_neg hc, if_pos (hd c (by simp)), ← List.cons_append,
        Text.spanDigits_append hd hr]

theorem fractionPart_append {fraction rest : Text} (hd : AllDigits fraction) (hr : NoDigit rest)
    (hdot : eat? '.' rest = none) :
    fractionPart (fractionText fraction ++ rest) = (fraction, rest) := by
  cases fraction with
  | nil =>
    change fractionPart rest = _
    rw [fractionPart, hdot]
  | cons c fraction =>
    have heat : eat? '.' (fractionText (c :: fraction) ++ rest) = some ((c :: fraction) ++ rest) :=
      eat?_self _ _
    rw [fractionPart, heat]
    simp only [Text.spanDigits_append hd hr]
    rfl

theorem exponentPart_append {exponent : Option (Bool × Text)} {rest : Text}
    (hd : ∀ negative digits, exponent = some (negative, digits) → AllDigits digits ∧ digits ≠ [])
    (hr : NoDigit rest) (he : eat? 'e' rest = none) (hE : eat? 'E' rest = none) :
    exponentPart (exponentText exponent ++ rest) = (exponent, rest) := by
  cases exponent with
  | none =>
    change exponentPart rest = _
    rw [exponentPart, he, hE, Option.or_none]
  | some signed =>
    obtain ⟨negative, digits⟩ := signed
    obtain ⟨hdigits, hne⟩ := hd negative digits rfl
    have hmark : eat? 'e' (exponentText (some (negative, digits)) ++ rest) =
        some ((if negative then ('-' : CodePoint) else ('+' : CodePoint)) :: (digits ++ rest)) :=
      eat?_self _ _
    have hsign : sign ((if negative then ('-' : CodePoint) else ('+' : CodePoint)) ::
        (digits ++ rest)) = (negative, digits ++ rest) := by
      cases negative <;> rfl
    rw [exponentPart, hmark, Option.some_or]
    simp [hsign, Text.spanDigits_append hdigits hr, hne]

theorem noDigit_exponentText (exponent : Option (Bool × Text)) {rest : Text}
    (hr : NoDigit rest) : NoDigit (exponentText exponent ++ rest) := by
  cases exponent with
  | none => exact hr
  | some signed =>
    intro c hc
    obtain rfl : ('e' : CodePoint) = c := by simpa [exponentText] using hc
    decide

theorem noDigit_fractionText (fraction : Text) {rest : Text} (hr : NoDigit rest) :
    NoDigit (fractionText fraction ++ rest) := by
  cases fraction with
  | nil => exact hr
  | cons d fraction =>
    intro c hc
    obtain rfl : ('.' : CodePoint) = c := by simpa [fractionText] using hc
    decide

theorem eat?_dot_exponentText {exponent : Option (Bool × Text)} {rest : Text}
    (hr : eat? '.' rest = none) : eat? '.' (exponentText exponent ++ rest) = none := by
  cases exponent with
  | none => exact hr
  | some signed => rfl

/-- The reader finds a numeral in front of what can follow a value. -/
theorem number?_text {n : Numeral} (h : n.Proper) {rest : Text} (hr : Closed rest) :
    number? (n.text ++ rest) = some (n, rest) := by
  obtain ⟨negative, whole, fraction, exponent⟩ := n
  have hexponent := exponentPart_append h.exponent_digits hr.noDigit
    (hr.eat?_eq_none (by decide)) (hr.eat?_eq_none (by decide))
  have hfraction := fractionPart_append h.fraction_digits
    (noDigit_exponentText exponent hr.noDigit)
    (eat?_dot_exponentText (hr.eat?_eq_none (by decide)))
  have hwhole := wholePart?_append h.whole_digits h.whole_ne_nil h.whole_zero
    (noDigit_fractionText fraction
      (noDigit_exponentText exponent hr.noDigit))
  have hminus := eat?_digits_eq_none (c := '-') (by decide) h.whole_digits h.whole_ne_nil
    (fractionText fraction ++ (exponentText exponent ++ rest))
  simp only at hexponent hfraction hwhole hminus
  have hassoc : Numeral.text ⟨negative, whole, fraction, exponent⟩ ++ rest =
      (if negative then [('-' : CodePoint)] else []) ++
        (whole ++ (fractionText fraction ++ (exponentText exponent ++ rest))) := by
    simp [Numeral.text]
  rw [hassoc]
  cases negative with
  | true =>
    simp only [↓reduceIte, List.cons_append, List.nil_append, number?, eat?_self]
    simp [hwhole, hfraction, hexponent]
  | false =>
    simp only [Bool.false_eq_true, ↓reduceIte, List.nil_append, number?, hminus]
    simp [hwhole, hfraction, hexponent]

theorem word?_text {n : Numeral} (h : n.Proper) (rest : Text) : word? (n.text ++ rest) = none := by
  obtain ⟨negative, whole, fraction, exponent⟩ := n
  cases whole with
  | nil => exact absurd rfl h.whole_ne_nil
  | cons d whole =>
    have hd := h.whole_digits d (by simp)
    have hne (c : Char) (hc : isDigit c = false) : (c : CodePoint) ≠ d := by
      rintro rfl
      rw [hc] at hd
      cases hd
    have hn := hne 'n' (by decide)
    have ht := hne 't' (by decide)
    have hf := hne 'f' (by decide)
    have hN := hne 'N' (by decide)
    have hI := hne 'I' (by decide)
    have hm := hne '-' (by decide)
    cases negative with
    | true => simp [Numeral.text, word?, words, Text.ofString, eatWord?, hI]
    | false => simp [Numeral.text, word?, words, Text.ofString, eatWord?, hn, ht, hf, hN, hI, hm]

theorem scalar_text {n : Numeral} (h : n.Proper) {document : Json} (hv : n.value = .ok document)
    {rest : Text} (hr : Closed rest) : scalar (n.text ++ rest) = .ok (document, rest) := by
  rw [scalar, word?_text h, number?_text h hr]
  simp only [hv]
  rfl

namespace Numeral

def ofInt (n : Int) : Numeral := ⟨n < 0, Text.ofNat n.natAbs, [], none⟩

theorem text_ofInt (n : Int) : (ofInt n).text = Text.ofInt n := by
  cases n with
  | ofNat n => simp [ofInt, text, fractionText, exponentText, Text.ofInt]
  | negSucc n => simp [ofInt, text, fractionText, exponentText, Text.ofInt, Int.negSucc_lt_zero]

theorem proper_ofInt (n : Int) : (ofInt n).Proper where
  whole_digits := Text.allDigits_ofNat _
  whole_ne_nil := Text.ofNat_ne_nil _
  whole_zero rest h := by
    have hzero := Text.ofNat_eq_zero_cons h
    rw [ofInt, hzero] at h
    exact (List.cons.inj h).2.symm
  fraction_digits := by simp [ofInt, AllDigits]
  exponent_digits := by simp [ofInt]

theorem value_ofInt {n : Int} (h : (Nat.toDigits 10 n.natAbs).length ≤ maxIntegerDigits) :
    (ofInt n).value = .ok (.int n) := by
  have hlength : ¬maxIntegerDigits < (Text.ofNat n.natAbs).length := by
    rw [Text.length_ofNat]
    omega
  have hsign : (if decide (n < 0) then -(n.natAbs : Int) else n.natAbs) = n := by
    by_cases hn : n < 0
    · rw [if_pos (by simpa using hn)]
      omega
    · rw [if_neg (by simpa using hn)]
      omega
  have hinteger : (ofInt n).isInteger = true := rfl
  rw [value, if_pos hinteger]
  change (if maxIntegerDigits < (Text.ofNat n.natAbs).length then _ else _) = _
  rw [if_neg hlength]
  simp only [ofInt, Text.valueOfDigits_ofNat, hsign]

def ofDecimal (negative : Bool) (d : Binary64.Decimal) : Numeral :=
  let digits := Text.ofNat d.digits
  let point : Int := digits.length + d.exponent
  if -4 < point ∧ point ≤ 16 then
    if point ≤ 0 then
      ⟨negative, [('0' : CodePoint)],
        List.replicate (-point).toNat ('0' : CodePoint) ++ digits, none⟩
    else if digits.length ≤ point then
      ⟨negative, digits ++ List.replicate (point.toNat - digits.length) ('0' : CodePoint),
        [('0' : CodePoint)], none⟩
    else ⟨negative, digits.take point.toNat, digits.drop point.toNat, none⟩
  else
    let power := Text.ofNat (point - 1).natAbs
    ⟨negative, digits.take 1, digits.drop 1,
      some (decide (point - 1 < 0), if power.length = 1 then ('0' : CodePoint) :: power else power)⟩

theorem fractionText_of_ne_nil {fraction : Text} (h : fraction ≠ []) :
    fractionText fraction = ('.' : CodePoint) :: fraction :=
  if_neg (by simpa using h)

theorem mantissa_eq {digits : Text} (h : digits ≠ []) :
    (if digits.length = 1 then digits else digits.take 1 ++ Text.ofString "." ++ digits.drop 1) =
      digits.take 1 ++ fractionText (digits.drop 1) := by
  have hpos := List.length_pos_iff.2 h
  split
  · next hone =>
    rw [List.take_of_length_le (by omega), List.drop_of_length_le (by omega)]
    exact (List.append_nil _).symm
  · next hmany =>
    have hdrop : digits.drop 1 ≠ [] := by
      rw [Ne, List.drop_eq_nil_iff]
      omega
    rw [fractionText_of_ne_nil hdrop, List.append_assoc]
    rfl

theorem text_ofDecimal (negative : Bool) (d : Binary64.Decimal) :
    (ofDecimal negative d).text =
      (if negative then [('-' : CodePoint)] else []) ++ Binary64.textOfDecimal d := by
  have hne := Text.ofNat_ne_nil d.digits
  have hmantissa := mantissa_eq hne
  simp only [ofDecimal, Binary64.textOfDecimal]
  generalize Text.ofNat d.digits = digits at *
  generalize (digits.length : Int) + d.exponent = point
  by_cases hpositional : -4 < point ∧ point ≤ 16
  · rw [if_pos hpositional, if_pos hpositional]
    by_cases hsmall : point ≤ 0
    · rw [if_pos hsmall, if_pos hsmall]
      simp only [text, exponentText, List.append_nil]
      rw [fractionText_of_ne_nil (by simp [hne])]
      rfl
    · rw [if_neg hsmall, if_neg hsmall]
      by_cases hwhole : (digits.length : Int) ≤ point
      · rw [if_pos hwhole, if_pos hwhole]
        simp only [text, exponentText, List.append_nil]
        rfl
      · rw [if_neg hwhole, if_neg hwhole]
        have hdrop : digits.drop point.toNat ≠ [] := by
          rw [Ne, List.drop_eq_nil_iff]
          omega
        simp only [text, exponentText, List.append_nil]
        rw [fractionText_of_ne_nil hdrop, List.append_assoc]
        rfl
  · rw [if_neg hpositional, if_neg hpositional, hmantissa]
    simp only [text, exponentText, List.append_assoc]
    by_cases hnegative : point - 1 < 0
    · rw [if_pos hnegative]
      simp only [decide_eq_true hnegative, ↓reduceIte]
      rfl
    · rw [if_neg hnegative]
      simp only [decide_eq_false hnegative, Bool.false_eq_true, ↓reduceIte]
      rfl

theorem proper_ofDecimal (negative : Bool) {d : Binary64.Decimal} (h : d.digits ≠ 0) :
    (ofDecimal negative d).Proper := by
  have hdigits := Text.allDigits_ofNat d.digits
  have hzero (rest : Text) : Text.ofNat d.digits ≠ ('0' : CodePoint) :: rest :=
    fun heq => h (Text.ofNat_eq_zero_cons heq)
  have hne := Text.ofNat_ne_nil d.digits
  simp only [ofDecimal]
  generalize Text.ofNat d.digits = digits at *
  generalize (digits.length : Int) + d.exponent = point
  obtain ⟨c, rest, rfl⟩ := List.exists_cons_of_ne_nil hne
  have hc : c ≠ ('0' : CodePoint) := fun heq => hzero rest (heq ▸ rfl)
  by_cases hpositional : -4 < point ∧ point ≤ 16
  · rw [if_pos hpositional]
    by_cases hsmall : point ≤ 0
    · rw [if_pos hsmall]
      exact {
        whole_digits := by simp [AllDigits, isDigit, CodePoint.ofChar]
        whole_ne_nil := by simp
        whole_zero := fun tail heq => (List.cons.inj heq).2.symm
        fraction_digits := (Text.allDigits_zeros _).append hdigits
        exponent_digits := by simp }
    · rw [if_neg hsmall]
      by_cases hwhole : ((c :: rest).length : Int) ≤ point
      · rw [if_pos hwhole]
        exact {
          whole_digits := hdigits.append (Text.allDigits_zeros _)
          whole_ne_nil := by simp
          whole_zero := fun tail heq => absurd (List.cons.inj heq).1 hc
          fraction_digits := Text.allDigits_zeros 1
          exponent_digits := by simp }
      · rw [if_neg hwhole]
        obtain ⟨k, hk⟩ : ∃ k, point.toNat = k + 1 := ⟨point.toNat - 1, by omega⟩
        rw [hk]
        exact {
          whole_digits := hdigits.take _
          whole_ne_nil := by simp
          whole_zero := fun tail heq => absurd (List.cons.inj heq).1 hc
          fraction_digits := hdigits.drop _
          exponent_digits := by simp }
  · rw [if_neg hpositional]
    exact {
      whole_digits := hdigits.take 1
      whole_ne_nil := by simp
      whole_zero := fun tail heq => absurd (List.cons.inj heq).1 hc
      fraction_digits := hdigits.drop 1
      exponent_digits := by
        rintro negative digits heq
        obtain ⟨-, rfl⟩ := Prod.mk.inj (Option.some.inj heq)
        have hpower := Text.allDigits_ofNat (point - 1).natAbs
        split
        · exact ⟨(Text.allDigits_zeros 1).append hpower, by simp⟩
        · exact ⟨hpower, Text.ofNat_ne_nil _⟩ }

theorem value_of_not_isInteger {n : Numeral} (h : n.isInteger = false) :
    n.value = .ok (.float (Binary64.ofDecimal n.negative
      (Text.valueOfDigits (n.whole ++ n.fraction)) (n.power - n.fraction.length))) := by
  rw [value, h]
  rfl

theorem valueOfDigits_zeros_append (k : Nat) (t : Text) :
    Text.valueOfDigits (List.replicate k ('0' : CodePoint) ++ t) = Text.valueOfDigits t := by
  rw [Text.valueOfDigits_append, Text.valueOfDigits_zeros, Nat.zero_mul, Nat.zero_add]

theorem valueOfDigits_append_zeros (t : Text) (k : Nat) :
    Text.valueOfDigits (t ++ List.replicate k ('0' : CodePoint)) =
      Text.valueOfDigits t * 10 ^ k := by
  rw [Text.valueOfDigits_append, Text.valueOfDigits_zeros, List.length_replicate, Nat.add_zero]

theorem valueOfDigits_padded (k : Nat) :
    Text.valueOfDigits (if (Text.ofNat k).length = 1 then ('0' : CodePoint) :: Text.ofNat k
      else Text.ofNat k) = k := by
  split
  · exact (valueOfDigits_zeros_append 1 _).trans (Text.valueOfDigits_ofNat k)
  · exact Text.valueOfDigits_ofNat k

theorem value_ofDecimal (negative : Bool) (d : Binary64.Decimal) :
    (ofDecimal negative d).value = .ok (.float (d.toBinary64 negative)) := by
  have hne := Text.ofNat_ne_nil d.digits
  have hvalue := Text.valueOfDigits_ofNat d.digits
  simp only [ofDecimal, Binary64.Decimal.toBinary64]
  generalize Text.ofNat d.digits = digits at *
  generalize hpoint : (digits.length : Int) + d.exponent = point
  by_cases hpositional : -4 < point ∧ point ≤ 16
  · rw [if_pos hpositional]
    by_cases hsmall : point ≤ 0
    · have hexponent : (0 : Int) - (List.replicate (-point).toNat ('0' : CodePoint) ++
          digits).length = d.exponent := by
        rw [List.length_append, List.length_replicate]
        omega
      rw [if_pos hsmall, value_of_not_isInteger (by simp [isInteger, hne])]
      simp only [power, hexponent]
      rw [← List.replicate_one, valueOfDigits_zeros_append, valueOfDigits_zeros_append, hvalue]
    · rw [if_neg hsmall]
      by_cases hwhole : (digits.length : Int) ≤ point
      · have hzeros : digits ++ List.replicate (point.toNat - digits.length) ('0' : CodePoint) ++
            [('0' : CodePoint)] =
            digits ++ List.replicate (point.toNat - digits.length + 1) ('0' : CodePoint) := by
          rw [List.append_assoc, List.replicate_succ']
        have hexponent : (0 : Int) - ([('0' : CodePoint)] : Text).length +
            (point.toNat - digits.length + 1 : Nat) = d.exponent := by
          simp only [List.length_singleton]
          omega
        rw [if_pos hwhole, value_of_not_isInteger rfl]
        simp only [power, hzeros]
        rw [valueOfDigits_append_zeros, hvalue, Binary64.ofDecimal_mul_pow, hexponent]
      · have hfraction : digits.drop point.toNat ≠ [] := by
          rw [Ne, List.drop_eq_nil_iff]
          omega
        have hexponent : (0 : Int) - (digits.drop point.toNat).length = d.exponent := by
          rw [List.length_drop]
          omega
        rw [if_neg hwhole, value_of_not_isInteger (by simp [isInteger, hfraction])]
        simp only [power, List.take_append_drop, hexponent, hvalue]
  · have hpos := List.length_pos_iff.2 hne
    have hpower : power ⟨negative, digits.take 1, digits.drop 1,
        some (decide (point - 1 < 0),
          if (Text.ofNat (point - 1).natAbs).length = 1 then
            ('0' : CodePoint) :: Text.ofNat (point - 1).natAbs
          else Text.ofNat (point - 1).natAbs)⟩ = point - 1 := by
      simp only [power, valueOfDigits_padded]
      split
      · next h =>
        have := of_decide_eq_true h
        omega
      · next h =>
        have : ¬point - 1 < 0 := fun hlt => h (decide_eq_true hlt)
        omega
    rw [if_neg hpositional, value_of_not_isInteger (by simp [isInteger]), hpower]
    simp only [List.take_append_drop, List.length_drop, hvalue]
    congr 3
    omega

end Numeral

theorem scalar_ofInt {n : Int} (h : (Nat.toDigits 10 n.natAbs).length ≤ maxIntegerDigits)
    {rest : Text} (hr : Closed rest) : scalar (Text.ofInt n ++ rest) = .ok (.int n, rest) := by
  rw [← Numeral.text_ofInt]
  exact scalar_text (Numeral.proper_ofInt n) (Numeral.value_ofInt h) hr

theorem finite_of_units_eq_zero (negative : Bool) {exponent : Fin 2047}
    {fraction : Fin (Nat.pow 2 52)} (h : Binary64.unitsOfFields exponent fraction = 0) :
    Binary64.finite negative exponent fraction = .zero negative := by
  obtain ⟨e, he⟩ := exponent
  cases e with
  | zero =>
    have hf : fraction = ⟨0, by decide⟩ := Fin.ext h
    rw [hf]
    rfl
  | succ e =>
    rw [Binary64.unitsOfFields_succ] at h
    have := Nat.mul_pos (show 0 < 2 ^ 52 + fraction.val by omega)
      (Nat.pow_pos (n := e) (show 0 < 2 by decide))
    omega

/-- The text of a finite number is that of a numeral which is read as this number. -/
theorem exists_numeral (negative : Bool) (exponent : Fin 2047) (fraction : Fin (Nat.pow 2 52)) :
    ∃ n : Numeral, n.Proper ∧ n.text = Binary64.textOfFields negative exponent fraction ∧
      n.value = .ok (.float (.finite negative exponent fraction)) := by
  by_cases h : Binary64.unitsOfFields exponent fraction = 0
  · refine ⟨⟨negative, ['0'], ['0'], none⟩, ?_, ?_, ?_⟩
    · exact {
        whole_digits := Text.allDigits_zeros 1
        whole_ne_nil := by simp
        whole_zero := fun tail heq => (List.cons.inj heq).2.symm
        fraction_digits := Text.allDigits_zeros 1
        exponent_digits := by simp }
    · rw [Binary64.textOfFields, if_pos h]
      cases negative <;> rfl
    · rw [Numeral.value_of_not_isInteger rfl, finite_of_units_eq_zero negative h]
      exact congrArg (fun x => Except.ok (Json.float x)) (if_pos rfl)
  · refine ⟨.ofDecimal negative (Binary64.shortest negative exponent fraction),
      Numeral.proper_ofDecimal negative (Binary64.shortest_digits_ne_zero negative h), ?_, ?_⟩
    · rw [Numeral.text_ofDecimal, Binary64.textOfFields, if_neg h]
      generalize Binary64.textOfDecimal _ = magnitude
      cases negative <;> rfl
    · rw [Numeral.value_ofDecimal, Binary64.toBinary64_shortest negative h]

theorem scalar_writeFloat (x : Binary64) {rest : Text} (hr : Closed rest) :
    scalar (writeFloat x ++ rest) = .ok (.float x, rest) := by
  cases x with
  | nan => rfl
  | infinity negative => cases negative <;> rfl
  | finite negative exponent fraction =>
    obtain ⟨n, hproper, htext, hvalue⟩ := exists_numeral negative exponent fraction
    rw [writeFloat, ← htext]
    exact scalar_text hproper hvalue hr

end ClientRegistration.Json
