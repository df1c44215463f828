import ClientRegistration.Text.Digits
import Mathlib.Algebra.Group.Nat.Defs
import Mathlib.Data.List.TakeDrop
namespace ClientRegistration

@[simp] theorem CodePoint.ofChar_inj {c d : Char} :
    CodePoint.ofChar c = CodePoint.ofChar d ↔ c = d := by
  refine ⟨fun h => ?_, congrArg _⟩
  exact Char.toNat_inj.1 (congrArg CodePoint.val h)

theorem CodePoint.val_ofNat {n : Nat} (h : n < 0x110000) : (CodePoint.ofNat n).val = n := by
  simp [CodePoint.ofNat, h]

namespace Text

theorem isDigit_ofChar (c : Char) : isDigit (CodePoint.ofChar c) = c.isDigit := by
  rfl

def AllDigits (t : Text) : Prop := ∀ c ∈ t, isDigit c = true

theorem AllDigits.append {t u : Text} (ht : AllDigits t) (hu : AllDigits u) :
    AllDigits (t ++ u) := by
  intro c hc
  rcases List.mem_append.1 hc with h | h
  · exact ht c h
  · exact hu c h

theorem AllDigits.take {t : Text} (h : AllDigits t) (n : Nat) : AllDigits (t.take n) :=
  fun c hc => h c (List.mem_of_mem_take hc)

theorem AllDigits.drop {t : Text} (h : AllDigits t) (n : Nat) : AllDigits (t.drop n) :=
  fun c hc => h c (List.mem_of_mem_drop hc)

theorem allDigits_zeros (n : Nat) : AllDigits (List.replicate n ('0' : CodePoint)) := by
  intro c hc
  rw [List.eq_of_mem_replicate hc]
  decide

theorem allDigits_ofNat (n : Nat) : AllDigits (ofNat n) := by
  intro c hc
  obtain ⟨d, hd, rfl⟩ := List.mem_map.1 hc
  rw [isDigit_ofChar]
  exact Nat.isDigit_of_mem_toDigits (by decide) (by decide) hd

@[simp] theorem length_ofNat (n : Nat) : (ofNat n).length = (Nat.toDigits 10 n).length := by
  simp [ofNat]

theorem ofNat_ne_nil (n : Nat) : ofNat n ≠ [] := by
  simp [ofNat]

theorem ofNat_eq_zero_cons {n : Nat} {rest : Text} (h : ofNat n = ('0' : CodePoint) :: rest) :
    n = 0 := by
  induction n using Nat.strongRecOn generalizing rest with
  | ind n ih =>
    by_cases hn : n < 10
    · rw [ofNat, Nat.toDigits_of_lt_base hn] at h
      simp only [List.map_cons, List.map_nil, List.cons.injEq] at h
      have hc : (Nat.digitChar n).toNat = 48 := congrArg CodePoint.val h.1
      rw [Nat.toNat_digitChar_of_lt_ten hn] at hc
      omega
    · have hle : 10 ≤ n := by omega
      rw [ofNat, Nat.toDigits_of_base_le (by decide) hle, List.map_append] at h
      cases hq : ofNat (n / 10) with
      | nil => exact absurd hq (ofNat_ne_nil _)
      | cons d ds =>
        have hd : d = '0' := by
          rw [ofNat] at hq
          rw [hq] at h
          exact (List.cons.inj h).1
        have := ih (n / 10) (by omega) (hd ▸ hq)
        omega

theorem valueOfDigits_append (t u : Text) :
    valueOfDigits (t ++ u) = valueOfDigits t * 10 ^ u.length + valueOfDigits u := by
  have start (n : Nat) : u.foldl (fun n c => 10 * n + (c.val - 0x30)) n =
      n * 10 ^ u.length + valueOfDigits u := by
    induction u generalizing n with
    | nil => simp [valueOfDigits]
    | cons c u ih =>
      simp only [valueOfDigits, List.foldl_cons, List.length_cons] at ih ⊢
      rw [ih, ih (10 * 0 + (c.val - 0x30)), Nat.pow_succ]
      grind
  rw [valueOfDigits, List.foldl_append]
  exact start _

theorem valueOfDigits_ofNat (n : Nat) : valueOfDigits (ofNat n) = n := by
  have h := Nat.ofDigitChars_toDigits (n := n) (b := 10) (by decide) (by decide)
  rw [Nat.ofDigitChars_eq_foldl] at h
  rw [valueOfDigits, ofNat, List.foldl_map]
  exact h

theorem valueOfDigits_zeros (n : Nat) :
    valueOfDigits (List.replicate n ('0' : CodePoint)) = 0 := by
  induction n with
  | zero => rfl
  | succ n ih =>
    rw [List.replicate_succ', valueOfDigits_append, ih]
    rfl

theorem valueOfDigits_lt {t : Text} (h : AllDigits t) : valueOfDigits t < 10 ^ t.length := by
  induction t with
  | nil => decide
  | cons c t ih =>
    have hc : c.val - 0x30 ≤ 9 := by
      have := h c (by simp)
      simp only [isDigit, Bool.and_eq_true, decide_eq_true_eq] at this
      omega
    have ht := ih fun x hx => h x (List.mem_cons_of_mem _ hx)
    have heq : valueOfDigits (c :: t) = (c.val - 0x30) * 10 ^ t.length + valueOfDigits t := by
      have := valueOfDigits_append [c] t
      simpa [valueOfDigits] using this
    have hmul : (c.val - 0x30) * 10 ^ t.length ≤ 9 * 10 ^ t.length := Nat.mul_le_mul_right _ hc
    rw [heq, List.length_cons, Nat.pow_succ]
    omega

theorem length_toDigits_valueOfDigits_le {t : Text} (h : AllDigits t) (hne : t ≠ []) :
    (Nat.toDigits 10 (valueOfDigits t)).length ≤ t.length :=
  (Nat.length_toDigits_le_iff (by decide) (List.length_pos_iff.2 hne)).2 (valueOfDigits_lt h)

def NoDigit (t : Text) : Prop := ∀ c ∈ t.head?, isDigit c = false

theorem spanDigits_append {digits rest : Text} (hd : AllDigits digits) (hr : NoDigit rest) :
    spanDigits (digits ++ rest) = (digits, rest) := by
  have htake : rest.takeWhile isDigit = [] ∧ rest.dropWhile isDigit = rest := by
    cases rest with
    | nil => simp
    | cons c rest => simp [hr c (by simp)]
  rw [spanDigits, List.span_eq_takeWhile_dropWhile, List.takeWhile_append_of_pos hd,
    List.dropWhile_append_of_pos hd, htake.1, htake.2, List.append_nil]

theorem allDigits_spanDigits (t : Text) : AllDigits (spanDigits t).1 := by
  intro c hc
  rw [spanDigits, List.span_eq_takeWhile_dropWhile] at hc
  exact List.all_eq_true.1 List.all_takeWhile c hc

theorem spanDigits_ne_nil {c : CodePoint} (h : isDigit c = true) (t : Text) :
    (spanDigits (c :: t)).1 ≠ [] := by
  rw [spanDigits, List.span_eq_takeWhile_dropWhile, List.takeWhile_cons_of_pos h]
  exact List.cons_ne_nil _ _

theorem hexValue?_hexDigit (n : Nat) : hexValue? (hexDigit n) = some (n % 16) := by
  have all : ∀ d < 16, hexValue? (CodePoint.ofChar (Nat.digitChar d)) = some d := by decide
  exact all _ (Nat.mod_lt _ (by decide))

end Text

end ClientRegistration
