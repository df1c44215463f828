import ClientRegistration.Proofs.Binary64.ReadBack
namespace ClientRegistration.Binary64

theorem le_roundQuotient (numerator denominator : Nat) :
    numerator / denominator ≤ roundQuotient numerator denominator := by
  unfold roundQuotient
  dsimp only
  split
  · exact Nat.le_refl _
  split
  · exact Nat.le_succ _
  · exact Nat.le_add_right _ _

theorem roundQuotient_le (numerator denominator : Nat) :
    roundQuotient numerator denominator ≤ numerator / denominator + 1 := by
  unfold roundQuotient
  dsimp only
  split
  · exact Nat.le_succ _
  split
  · exact Nat.le_refl _
  · omega

/-- An even number is reached from half a step below it on, since half a step goes to the even
number. -/
theorem even_le_roundQuotient_iff {even : Nat} (heven : even % 2 = 0) (numerator : Nat)
    {half : Nat} (hhalf : 0 < half) :
    even ≤ roundQuotient numerator (2 * half) ↔ even * (2 * half) ≤ numerator + half := by
  have hrest : numerator % (2 * half) < 2 * half := Nat.mod_lt _ (by omega)
  have hsum : numerator / (2 * half) * (2 * half) + numerator % (2 * half) = numerator :=
    Nat.div_add_mod' _ _
  have hlow := le_roundQuotient numerator (2 * half)
  have hhigh := roundQuotient_le numerator (2 * half)
  have hround : roundQuotient numerator (2 * half) =
      if 2 * (numerator % (2 * half)) < 2 * half then numerator / (2 * half)
      else if 2 * half < 2 * (numerator % (2 * half)) then numerator / (2 * half) + 1
      else numerator / (2 * half) + numerator / (2 * half) % 2 := rfl
  generalize numerator / (2 * half) = quotient at *
  generalize numerator % (2 * half) = rest at *
  obtain hle | rfl | hlt : even ≤ quotient ∨ even = quotient + 1 ∨ quotient + 2 ≤ even := by omega
  · have := Nat.mul_le_mul_right (2 * half) hle
    omega
  · rw [hround, Nat.add_mul]
    split
    · omega
    split <;> omega
  · have := Nat.mul_le_mul_right (2 * half) hlt
    rw [Nat.add_mul] at this
    omega

/-- The significand of a number of units has 53 binary digits, unless it is rounded up to the next
power of two. -/
theorem significand_bounds {units : Nat} (h : 2 ^ 52 ≤ units) :
    2 ^ 52 ≤ roundQuotient units (2 ^ (units.log2 - 52)) ∧
      roundQuotient units (2 ^ (units.log2 - 52)) ≤ 2 ^ 53 := by
  have hpos : 0 < 2 ^ (units.log2 - 52) := Nat.pow_pos (by decide)
  have hne : units ≠ 0 := by omega
  have hlog : 52 ≤ units.log2 := (Nat.le_log2 hne).2 h
  have hlow : 2 ^ 52 * 2 ^ (units.log2 - 52) ≤ units := by
    rw [← Nat.pow_add, Nat.add_sub_cancel' hlog]
    exact Nat.log2_self_le hne
  have hhigh : units < 2 ^ 53 * 2 ^ (units.log2 - 52) := by
    rw [← Nat.pow_add, show 53 + (units.log2 - 52) = units.log2 + 1 by omega]
    exact Nat.lt_log2_self
  constructor
  · exact Nat.le_trans ((Nat.le_div_iff_mul_le hpos).2 hlow) (le_roundQuotient _ _)
  · exact Nat.le_trans (roundQuotient_le _ _) ((Nat.div_lt_iff_lt_mul hpos).2 hhigh)

theorem exists_pack_eq_infinity_iff {significand power : Nat} (hlow : 2 ^ 52 ≤ significand)
    (hhigh : significand ≤ 2 ^ 53) (negative : Bool) :
    (∃ sign, pack negative significand power = .infinity sign) ↔
      2046 ≤ power ∨ 2045 ≤ power ∧ 2 ^ 53 ≤ significand := by
  have hsmall : ¬significand < Nat.pow 2 52 := Nat.not_lt.2 hlow
  rw [pack, dif_neg hsmall]
  by_cases hcarry : significand = 2 ^ 53
  · rw [if_pos (show significand = Nat.pow 2 53 from hcarry)]
    split
    · exact iff_of_false nofun (by omega)
    · exact iff_of_true ⟨_, rfl⟩ (by omega)
  · rw [if_neg (show ¬significand = Nat.pow 2 53 from hcarry)]
    have hfraction : significand - 2 ^ 52 < 2 ^ 52 := by omega
    split
    · exact iff_of_false nofun (by omega)
    · next hfits =>
      have hpower : ¬power + 1 < 2047 := fun hpower => hfits ⟨hpower, hfraction⟩
      exact iff_of_true ⟨_, rfl⟩ (by omega)

theorem log2_mul_pow {n : Nat} (h : n ≠ 0) (k : Nat) : (n * 2 ^ k).log2 = n.log2 + k := by
  have hpos : 0 < 2 ^ k := Nat.pow_pos (by decide)
  rw [Nat.log2_eq_iff (Nat.mul_ne_zero h (Nat.ne_of_gt hpos)), Nat.add_right_comm, Nat.pow_add,
    Nat.pow_add _ _ k]
  exact ⟨Nat.mul_le_mul_right _ (Nat.log2_self_le h),
    Nat.mul_lt_mul_of_pos_right Nat.lt_log2_self hpos⟩

theorem roundQuotient_mul_pow (n k j : Nat) :
    roundQuotient (n * 2 ^ k) (2 ^ (k + j)) = roundQuotient n (2 ^ j) := by
  rw [Nat.mul_comm, Nat.pow_add, roundQuotient_mul (Nat.pow_pos (by decide))]

theorem log2_lt_or_roundQuotient_iff {n : Nat} (h : n ≠ 0) (k : Nat) :
    k + 54 ≤ n.log2 ∨ n.log2 = k + 53 ∧ 2 ^ 53 ≤ roundQuotient n (2 ^ (k + 1)) ↔
      2 ^ (k + 54) ≤ n + 2 ^ k := by
  have hpos : 0 < 2 ^ k := Nat.pow_pos (by decide)
  have hstep : 2 ^ (k + 1) = 2 * 2 ^ k := Nat.pow_succ'
  have hpow (j : Nat) : 2 ^ (k + j) = 2 ^ j * 2 ^ k := by rw [Nat.pow_add, Nat.mul_comm]
  have hlow := Nat.log2_self_le h
  have hhigh := @Nat.lt_log2_self n
  rw [hstep, even_le_roundQuotient_iff (by decide) n hpos]
  obtain hsmall | hlog | hlarge : n.log2 < k + 53 ∨ n.log2 = k + 53 ∨ k + 54 ≤ n.log2 := by omega
  · have hlt : n < 2 ^ (k + 53) :=
      Nat.lt_of_lt_of_le hhigh (Nat.pow_le_pow_right (by decide) hsmall)
    rw [hpow] at hlt ⊢
    omega
  · rw [hpow]
    omega
  · have hle : 2 ^ (k + 54) ≤ n := Nat.le_trans (Nat.pow_le_pow_right (by decide) hlarge) hlow
    exact iff_of_true (.inl hlarge) (Nat.le_add_right_of_le hle)

theorem exists_ofRatio_eq_infinity_iff {n : Nat} (h : n ≠ 0) (negative : Bool) :
    (∃ sign, ofRatio negative n 1 = .infinity sign) ↔ 2 ^ (970 + 54) ≤ n + 2 ^ 970 := by
  obtain ⟨places, hplaces⟩ : ∃ places, places = 1074 := ⟨_, rfl⟩
  have hone : unitsPerOne = 2 ^ places := by
    rw [hplaces]
    decide +kernel
  have hunits : 2 ^ 52 ≤ n * 2 ^ places :=
    Nat.le_trans (Nat.pow_le_pow_right (by decide) (by omega))
      (Nat.le_mul_of_pos_left _ (Nat.pos_of_ne_zero h))
  obtain ⟨hlow, hhigh⟩ := significand_bounds hunits
  rw [ofRatio, hone, ofUnits_eq, Nat.div_one, Nat.one_mul,
    exists_pack_eq_infinity_iff hlow hhigh, log2_mul_pow h, ← log2_lt_or_roundQuotient_iff h]
  by_cases hlog : n.log2 = 1023
  · rw [hlog, show 1023 + places - 52 = places + (970 + 1) by omega, roundQuotient_mul_pow]
    omega
  · omega

theorem bounded?_eq_none_iff {x : Binary64} : x.bounded? = none ↔ ∃ sign, x = .infinity sign := by
  cases x <;> simp [bounded?]

/-- Integers are too large for a floating point number from `2 ^ 1024 - 2 ^ 970` on. -/
theorem ofInt?_eq_none_iff (n : Int) : ofInt? n = none ↔ 2 ^ 1024 ≤ n.natAbs + 2 ^ 970 := by
  rw [ofInt?, bounded?_eq_none_iff]
  by_cases hzero : n.natAbs = 0
  · have hzeros : ofRatio (n < 0) 0 1 = zero (n < 0) := by
      rw [ofRatio, Nat.zero_mul]
      rfl
    have hless {j k : Nat} (h : j < k) : 2 ^ j < 2 ^ k := Nat.pow_lt_pow_right (by decide) h
    rw [hzero, hzeros, Nat.zero_add]
    apply iff_of_false
    · rintro ⟨sign, hsign⟩
      cases hsign
    · exact Nat.not_le.2 (hless (by decide))
  · rw [exists_ofRatio_eq_infinity_iff hzero, show 970 + 54 = 1024 from rfl]

end ClientRegistration.Binary64
