import ClientRegistration.Binary64.Shortest
import ClientRegistration.Proofs.Text.Digits
namespace ClientRegistration.Binary64

theorem roundQuotient_mul {c : Nat} (hc : 0 < c) (numerator denominator : Nat) :
    roundQuotient (c * numerator) (c * denominator) = roundQuotient numerator denominator := by
  have below : 2 * (c * (numerator % denominator)) < c * denominator ↔
      2 * (numerator % denominator) < denominator := by
    rw [Nat.mul_left_comm]
    exact Nat.mul_lt_mul_left hc
  have above : c * denominator < 2 * (c * (numerator % denominator)) ↔
      denominator < 2 * (numerator % denominator) := by
    rw [Nat.mul_left_comm]
    exact Nat.mul_lt_mul_left hc
  simp only [roundQuotient, Nat.mul_div_mul_left _ _ hc, Nat.mul_mod_mul_left, below, above]

theorem ofUnits_eq (negative : Bool) (numerator denominator : Nat) :
    ofUnits negative numerator denominator =
      pack negative (roundQuotient numerator
        (denominator * 2 ^ ((numerator / denominator).log2 - 52)))
        ((numerator / denominator).log2 - 52) := rfl

theorem ofUnits_mul {c : Nat} (hc : 0 < c) (negative : Bool) (numerator denominator : Nat) :
    ofUnits negative (c * numerator) (c * denominator) =
      ofUnits negative numerator denominator := by
  simp only [ofUnits, Nat.mul_div_mul_left _ _ hc, Nat.mul_assoc c, roundQuotient_mul hc]

theorem ofRatio_mul {c : Nat} (hc : 0 < c) (negative : Bool) (numerator denominator : Nat) :
    ofRatio negative (c * numerator) (c * denominator) =
      ofRatio negative numerator denominator := by
  rw [ofRatio, Nat.mul_assoc, ofUnits_mul hc, ofRatio]

theorem length_toDigits_mul_pow {n : Nat} (hn : 0 < n) (k : Nat) :
    (Nat.toDigits 10 (n * 10 ^ k)).length = (Nat.toDigits 10 n).length + k := by
  induction k with
  | zero => simp
  | succ k ih =>
    have hpos : 0 < n * 10 ^ k := Nat.mul_pos hn (Nat.pow_pos (by decide))
    have hle : 10 ≤ n * 10 ^ (k + 1) := by
      rw [Nat.pow_succ, ← Nat.mul_assoc]
      omega
    have hdiv : n * 10 ^ (k + 1) / 10 = n * 10 ^ k := by
      rw [Nat.pow_succ, ← Nat.mul_assoc, Nat.mul_div_cancel _ (by decide)]
    rw [Nat.toDigits_of_base_le (by decide) hle, List.length_append, hdiv, ih]
    rfl

theorem ofDecimal_of_ne_zero {digits : Nat} (h : digits ≠ 0) (negative : Bool) (exponent : Int) :
    ofDecimal negative digits exponent =
      if 310 < (Nat.toDigits 10 digits).length + exponent then .infinity negative
      else if (Nat.toDigits 10 digits).length + exponent < -330 then zero negative
      else if 0 ≤ exponent then ofRatio negative (digits * 10 ^ exponent.toNat) 1
      else ofRatio negative digits (10 ^ (-exponent).toNat) :=
  if_neg h

theorem ofDecimal_mul_pow (negative : Bool) (digits k : Nat) (exponent : Int) :
    ofDecimal negative (digits * 10 ^ k) exponent = ofDecimal negative digits (exponent + k) := by
  have hten (n : Nat) : 0 < 10 ^ n := Nat.pow_pos (by decide)
  by_cases hd : digits = 0
  · simp [ofDecimal, hd]
  have hd' : digits * 10 ^ k ≠ 0 := Nat.mul_ne_zero hd (Nat.ne_of_gt (hten k))
  have hlength : ((Nat.toDigits 10 (digits * 10 ^ k)).length : Int) + exponent =
      (Nat.toDigits 10 digits).length + (exponent + k) := by
    rw [length_toDigits_mul_pow (Nat.pos_of_ne_zero hd)]
    omega
  have hratio : (if 0 ≤ exponent then ofRatio negative (digits * 10 ^ k * 10 ^ exponent.toNat) 1
      else ofRatio negative (digits * 10 ^ k) (10 ^ (-exponent).toNat)) =
      if 0 ≤ exponent + k then ofRatio negative (digits * 10 ^ (exponent + k).toNat) 1
      else ofRatio negative digits (10 ^ (-(exponent + k)).toNat) := by
    rcases Int.lt_or_le exponent 0 with hneg | hpos
    · rcases Int.lt_or_le (exponent + k) 0 with hneg' | hpos'
      · have hsum : (-exponent).toNat = k + (-(exponent + k)).toNat := by omega
        rw [if_neg (by omega), if_neg (by omega), hsum, Nat.pow_add, Nat.mul_comm digits,
          ofRatio_mul (hten k)]
      · have hsum : k = (-exponent).toNat + (exponent + k).toNat := by omega
        have hnum : digits * 10 ^ k =
            10 ^ (-exponent).toNat * (digits * 10 ^ (exponent + k).toNat) := by
          rw [← Nat.mul_assoc, Nat.mul_comm _ digits, Nat.mul_assoc, ← Nat.pow_add, ← hsum]
        have := ofRatio_mul (hten (-exponent).toNat) negative
          (digits * 10 ^ (exponent + k).toNat) 1
        rw [if_neg (by omega), if_pos (by omega), hnum, ← this, Nat.mul_one]
    · have hsum : (exponent + k).toNat = k + exponent.toNat := by omega
      rw [if_pos (by omega), if_pos (by omega), hsum, Nat.pow_add, Nat.mul_assoc]
  rw [ofDecimal_of_ne_zero hd, ofDecimal_of_ne_zero hd', hlength, hratio]

namespace Decimal

def toBinary64 (negative : Bool) (d : Decimal) : Binary64 := ofDecimal negative d.digits d.exponent

theorem toBinary64_trim (negative : Bool) (fuel : Nat) (d : Decimal) :
    (d.trim fuel).toBinary64 negative = d.toBinary64 negative := by
  induction fuel generalizing d with
  | zero => rfl
  | succ fuel ih =>
    rw [trim]
    split
    · next h =>
      have hdigits : d.digits = d.digits / 10 * 10 ^ 1 := by omega
      rw [ih, toBinary64, toBinary64, hdigits, ofDecimal_mul_pow]
      simp
    · rfl

end Decimal

theorem roundQuotient_exact (n : Nat) {d : Nat} (hd : 0 < d) : roundQuotient (n * d) d = n := by
  simp [roundQuotient, Nat.mul_div_cancel _ hd, Nat.mul_mod_left, hd]

theorem log2_significand {fraction power : Nat} (h : fraction < 2 ^ 52) :
    ((2 ^ 52 + fraction) * 2 ^ power).log2 = 52 + power := by
  have hpos : 0 < 2 ^ power := Nat.pow_pos (by decide)
  rw [Nat.log2_eq_iff (Nat.ne_of_gt (Nat.mul_pos (by omega) hpos))]
  constructor
  · rw [Nat.pow_add]
    exact Nat.mul_le_mul_right _ (Nat.le_add_right _ _)
  · rw [show 52 + power + 1 = 53 + power by omega, Nat.pow_add]
    exact Nat.mul_lt_mul_of_pos_right (by omega) hpos

theorem unitsOfFields_succ {e : Nat} (he : e + 1 < 2047) (fraction : Fin (Nat.pow 2 52)) :
    unitsOfFields ⟨e + 1, he⟩ fraction = (2 ^ 52 + fraction.val) * 2 ^ e := rfl

theorem pack_of_lt {significand : Nat} (h : significand < 2 ^ 52) (negative : Bool) (power : Nat) :
    pack negative significand power = .finite negative ⟨0, by decide⟩ ⟨significand, h⟩ :=
  dif_pos h

theorem pack_add {fraction power : Nat} (h : fraction < 2 ^ 52) (hpower : power + 1 < 2047)
    (negative : Bool) :
    pack negative (2 ^ 52 + fraction) power =
      .finite negative ⟨power + 1, hpower⟩ ⟨fraction, h⟩ := by
  have hsub : 2 ^ 52 + fraction - 2 ^ 52 = fraction := Nat.add_sub_cancel_left ..
  have hfits : power + 1 < 2047 ∧ 2 ^ 52 + fraction - 2 ^ 52 < 2 ^ 52 := ⟨hpower, by omega⟩
  have hsmall : ¬2 ^ 52 + fraction < 2 ^ 52 := by omega
  have hcarry : 2 ^ 52 + fraction ≠ 2 ^ 53 := by omega
  calc pack negative (2 ^ 52 + fraction) power
    _ = .finite negative ⟨power + 1, hpower⟩ ⟨2 ^ 52 + fraction - 2 ^ 52, hfits.2⟩ :=
      (dif_neg hsmall).trans ((if_neg hcarry).trans (dif_pos hfits))
    _ = .finite negative ⟨power + 1, hpower⟩ ⟨fraction, h⟩ := by simp only [hsub]

theorem ofUnits_unitsOfFields (negative : Bool) (exponent : Fin 2047)
    (fraction : Fin (Nat.pow 2 52)) :
    ofUnits negative (unitsOfFields exponent fraction) 1 = .finite negative exponent fraction := by
  obtain ⟨e, he⟩ := exponent
  obtain ⟨f, hf⟩ := fraction
  cases e with
  | zero =>
    have hlog : f.log2 - 52 = 0 := by
      by_cases h0 : f = 0
      · simp [h0]
      · have : f.log2 < 52 := (Nat.log2_lt h0).2 hf
        omega
    have hround := roundQuotient_exact f (d := 1) (by decide)
    rw [Nat.mul_one] at hround
    change ofUnits negative f 1 = _
    rw [ofUnits_eq, Nat.div_one, hlog, Nat.pow_zero, Nat.one_mul, hround, pack_of_lt hf]
  | succ e =>
    have hf' : f < 2 ^ 52 := hf
    have hlog : ((2 ^ 52 + f) * 2 ^ e).log2 - 52 = e := by
      rw [log2_significand hf']
      omega
    rw [unitsOfFields_succ, ofUnits_eq, Nat.div_one, hlog, Nat.one_mul,
      roundQuotient_exact _ (Nat.pow_pos (by decide)), pack_add hf' he]

theorem unitsOfFields_lt (exponent : Fin 2047) (fraction : Fin (Nat.pow 2 52)) {k : Nat}
    (h : exponent.val - 1 ≤ k) : unitsOfFields exponent fraction < 2 ^ (53 + k) := by
  have hf : fraction.val < 2 ^ 52 := fraction.isLt
  have hpos (n : Nat) : 0 < 2 ^ n := Nat.pow_pos (by decide)
  have heq : unitsOfFields exponent fraction = if exponent.val = 0 then fraction.val
      else (2 ^ 52 + fraction.val) * 2 ^ (exponent.val - 1) := rfl
  rw [heq, Nat.pow_add]
  split
  · calc fraction.val < 2 ^ 53 := by omega
      _ ≤ 2 ^ 53 * 2 ^ k := Nat.le_mul_of_pos_right _ (hpos k)
  · calc (2 ^ 52 + fraction.val) * 2 ^ (exponent.val - 1)
        < 2 ^ 53 * 2 ^ (exponent.val - 1) := Nat.mul_lt_mul_of_pos_right (by omega) (hpos _)
      _ ≤ 2 ^ 53 * 2 ^ k := Nat.mul_le_mul_left _ (Nat.pow_le_pow_right (by decide) h)

/-- The decimal of all digits of so many units, where one unit is `five / 10 ^ k`. -/
theorem ofDecimal_units (negative : Bool) {units five k : Nat} (hu : units ≠ 0)
    (hunit : five * unitsPerOne = 10 ^ k) (hk : 330 < k)
    (hmost : units * five < 10 ^ (k + 310)) (hleast : 10 ^ (k - 330) ≤ five) :
    ofDecimal negative (units * five) (-k) = ofUnits negative units 1 := by
  have hten (n : Nat) : 0 < 10 ^ n := Nat.pow_pos (by decide)
  have hd : units * five ≠ 0 :=
    Nat.mul_ne_zero hu (Nat.ne_of_gt (Nat.lt_of_lt_of_le (hten _) hleast))
  have hle : (Nat.toDigits 10 (units * five)).length ≤ k + 310 :=
    (Nat.length_toDigits_le_iff (by decide) (by omega)).2 hmost
  have hge : ¬(Nat.toDigits 10 (units * five)).length ≤ k - 330 := by
    rw [Nat.length_toDigits_le_iff (by decide) (by omega), Nat.not_lt]
    exact Nat.le_trans hleast (Nat.le_mul_of_pos_left _ (Nat.pos_of_ne_zero hu))
  have hratio : units * five * unitsPerOne = 10 ^ k * units := by
    rw [Nat.mul_assoc, hunit, Nat.mul_comm]
  have hone := ofUnits_mul (hten k) negative units 1
  rw [Nat.mul_one] at hone
  rw [ofDecimal_of_ne_zero hd, if_neg (by omega), if_neg (by omega), if_neg (by omega), ofRatio,
    Int.neg_neg, Int.toNat_natCast, hratio, hone]

theorem five_pow_mul_unitsPerOne : Nat.pow 5 1074 * unitsPerOne = 10 ^ 1074 := by decide +kernel

theorem five_pow_lt : 2 ^ (53 + 2045) * Nat.pow 5 1074 < 10 ^ (1074 + 310) := by decide +kernel

theorem le_five_pow : 10 ^ (1074 - 330) ≤ Nat.pow 5 1074 := by decide +kernel

theorem ofDecimal_exact (negative : Bool) {exponent : Fin 2047} {fraction : Fin (Nat.pow 2 52)}
    (h : unitsOfFields exponent fraction ≠ 0) :
    ofDecimal negative (unitsOfFields exponent fraction * Nat.pow 5 1074) (-1074) =
      .finite negative exponent fraction := by
  have hunits := unitsOfFields_lt exponent fraction (k := 2045) (by omega)
  have hunit := five_pow_mul_unitsPerOne
  have hmost := five_pow_lt
  have hleast := le_five_pow
  rw [← ofUnits_unitsOfFields negative exponent fraction]
  generalize Nat.pow 5 1074 = five at *
  generalize 2 ^ (53 + 2045) = bound at *
  have hfive : 0 < five := Nat.lt_of_lt_of_le (Nat.pow_pos (by decide)) hleast
  exact ofDecimal_units (k := 1074) negative h hunit (by decide)
    (Nat.lt_trans (Nat.mul_lt_mul_of_pos_right hunits hfive) hmost) hleast

theorem toBinary64_neighbour? {negative : Bool} {exponent : Fin 2047}
    {fraction : Fin (Nat.pow 2 52)} {count : Nat} {d : Decimal}
    (h : neighbour? negative exponent fraction count = some d) :
    d.toBinary64 negative = .finite negative exponent fraction := by
  rw [neighbour?, Option.map_eq_some_iff] at h
  obtain ⟨digits, hdigits, rfl⟩ := h
  have hback := List.find?_some hdigits
  rw [beq_iff_eq] at hback
  exact hback

/-- The shortest decimal of a number above or below zero reads back as that number. -/
theorem toBinary64_shortest (negative : Bool) {exponent : Fin 2047} {fraction : Fin (Nat.pow 2 52)}
    (h : unitsOfFields exponent fraction ≠ 0) :
    (shortest negative exponent fraction).toBinary64 negative =
      .finite negative exponent fraction := by
  have hexact := ofDecimal_exact negative h
  unfold shortest
  cases hfound : (List.range 17).findSome? fun n =>
      neighbour? negative exponent fraction (n + 1) with
  | some d =>
    obtain ⟨n, -, hn⟩ := List.exists_of_findSome?_eq_some hfound
    simp only [Decimal.toBinary64_trim]
    exact toBinary64_neighbour? hn
  | none => exact hexact

theorem shortest_digits_ne_zero (negative : Bool) {exponent : Fin 2047}
    {fraction : Fin (Nat.pow 2 52)} (h : unitsOfFields exponent fraction ≠ 0) :
    (shortest negative exponent fraction).digits ≠ 0 := by
  intro hd
  have := toBinary64_shortest negative h
  rw [Decimal.toBinary64, hd, ofDecimal, if_pos rfl, zero] at this
  cases this
  exact h rfl

end ClientRegistration.Binary64
