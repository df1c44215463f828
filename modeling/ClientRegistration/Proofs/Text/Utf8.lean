import ClientRegistration.Proofs.Result
import ClientRegistration.Proofs.Text.Digits
import ClientRegistration.Text.Charset
import Mathlib.Data.List.TakeWhile
namespace ClientRegistration

open Text (Piece)

theorem CodePoint.isSurrogate_eq_false_iff {c : CodePoint} :
    c.isSurrogate = false ↔ c.val < 0xD800 ∨ 0xDFFF < c.val := by
  rw [isSurrogate, Bool.and_eq_false_iff, decide_eq_false_iff_not, decide_eq_false_iff_not]
  omega

namespace Utf8

section

variable {a b c d : UInt8} (surrogates : Bool) (rest : Bytes)

theorem pieces_one (ha : a.toNat < 0x80) :
    pieces surrogates (a :: rest) = .char (CodePoint.ofNat a.toNat) :: pieces surrogates rest := by
  rw [pieces.eq_def]
  simp [ha]

theorem pieces_two (ha : 0xC2 ≤ a.toNat ∧ a.toNat < 0xE0) (hb : isTail b = true) :
    pieces surrogates (a :: b :: rest) = .char (join₂ a b) :: pieces surrogates rest := by
  have hone : ¬a.toNat < 0x80 := by omega
  have hlead : ¬(a.toNat < 0xC2 ∨ 0xF4 < a.toNat) := by omega
  rw [pieces.eq_def]
  simp [hone, hlead, ha.2, hb]

theorem pieces_three (ha : 0xE0 ≤ a.toNat ∧ a.toNat < 0xF0) (hb : maySecond a b = true)
    (hc : isTail c = true) :
    pieces surrogates (a :: b :: c :: rest) = .char (join₃ a b c) :: pieces surrogates rest := by
  have hone : ¬a.toNat < 0x80 := by omega
  have hlead : ¬(a.toNat < 0xC2 ∨ 0xF4 < a.toNat) := by omega
  have htwo : ¬a.toNat < 0xE0 := by omega
  rw [pieces.eq_def]
  simp [hone, hlead, htwo, ha.2, hb, hc]

theorem pieces_four (ha : 0xF0 ≤ a.toNat ∧ a.toNat ≤ 0xF4) (hb : maySecond a b = true)
    (hc : isTail c = true) (hd : isTail d = true) :
    pieces surrogates (a :: b :: c :: d :: rest) =
      .char (join₄ a b c d) :: pieces surrogates rest := by
  have hone : ¬a.toNat < 0x80 := by omega
  have hlead : ¬(a.toNat < 0xC2 ∨ 0xF4 < a.toNat) := by omega
  have htwo : ¬a.toNat < 0xE0 := by omega
  have hthree : ¬a.toNat < 0xF0 := by omega
  rw [pieces.eq_def]
  simp [hone, hlead, htwo, hthree, hb, hc, hd]

end

theorem toNat_ofNat {n : Nat} (h : n < 0x100) : (UInt8.ofNat n).toNat = n := by
  rw [UInt8.toNat_ofNat', Nat.mod_eq_of_lt h]

theorem isTail_ofNat {n : Nat} (h : n < 0x40) : isTail (UInt8.ofNat (0x80 + n)) = true := by
  rw [isTail, toNat_ofNat (by omega), Bool.and_eq_true, decide_eq_true_eq, decide_eq_true_eq]
  omega

theorem maySecond_iff {a b : UInt8} : maySecond a b = true ↔
    (0x80 ≤ b.toNat ∧ b.toNat ≤ 0xBF) ∧ (a.toNat = 0xE0 → 0xA0 ≤ b.toNat) ∧
      (a.toNat = 0xED → b.toNat ≤ 0x9F) ∧ (a.toNat = 0xF0 → 0x90 ≤ b.toNat) ∧
        (a.toNat = 0xF4 → b.toNat ≤ 0x8F) := by
  simp only [maySecond, isTail, Bool.and_eq_true, Bool.or_eq_true, bne_iff_ne, decide_eq_true_eq]
  omega

theorem pieces_encodeChar {c : CodePoint} (h : c.isSurrogate = false) (surrogates : Bool)
    (rest : Bytes) :
    pieces surrogates (encodeChar c ++ rest) = .char c :: pieces surrogates rest := by
  have hsurrogate := CodePoint.isSurrogate_eq_false_iff.1 h
  have hlt := c.val_lt
  have hback {n : Nat} (hn : n = c.val) : CodePoint.ofNat n = c := by rw [hn, CodePoint.ofNat_val]
  simp only [encodeChar]
  split
  · next hone =>
    rw [List.singleton_append, pieces_one, hback]
    · exact toNat_ofNat (by omega)
    · rw [toNat_ofNat] <;> omega
  split
  · next hone htwo =>
    have hlead : (UInt8.ofNat (0xC0 + c.val / 0x40)).toNat = 0xC0 + c.val / 0x40 :=
      toNat_ofNat (by omega)
    have hsecond : (UInt8.ofNat (0x80 + c.val % 0x40)).toNat = 0x80 + c.val % 0x40 :=
      toNat_ofNat (by omega)
    rw [List.cons_append, List.singleton_append,
      pieces_two _ _ (by rw [hlead]; omega) (isTail_ofNat (by omega)), join₂, hlead, hsecond, hback]
    omega
  split
  · next hone htwo hthree =>
    have hlead : (UInt8.ofNat (0xE0 + c.val / 0x1000)).toNat = 0xE0 + c.val / 0x1000 :=
      toNat_ofNat (by omega)
    have hsecond : (UInt8.ofNat (0x80 + c.val / 0x40 % 0x40)).toNat =
        0x80 + c.val / 0x40 % 0x40 := toNat_ofNat (by omega)
    have hthird : (UInt8.ofNat (0x80 + c.val % 0x40)).toNat = 0x80 + c.val % 0x40 :=
      toNat_ofNat (by omega)
    have hmay := maySecond_iff (a := UInt8.ofNat (0xE0 + c.val / 0x1000))
      (b := UInt8.ofNat (0x80 + c.val / 0x40 % 0x40))
    rw [hlead, hsecond] at hmay
    simp only [List.cons_append, List.nil_append]
    rw [pieces_three _ _ (by rw [hlead]; omega) (hmay.2 (by omega)) (isTail_ofNat (by omega)),
      join₃, hlead, hsecond, hthird, hback]
    omega
  · next hone htwo hthree =>
    have hlead : (UInt8.ofNat (0xF0 + c.val / 0x40000)).toNat = 0xF0 + c.val / 0x40000 :=
      toNat_ofNat (by omega)
    have hsecond : (UInt8.ofNat (0x80 + c.val / 0x1000 % 0x40)).toNat =
        0x80 + c.val / 0x1000 % 0x40 := toNat_ofNat (by omega)
    have hthird : (UInt8.ofNat (0x80 + c.val / 0x40 % 0x40)).toNat =
        0x80 + c.val / 0x40 % 0x40 := toNat_ofNat (by omega)
    have hfourth : (UInt8.ofNat (0x80 + c.val % 0x40)).toNat = 0x80 + c.val % 0x40 :=
      toNat_ofNat (by omega)
    have hmay := maySecond_iff (a := UInt8.ofNat (0xF0 + c.val / 0x40000))
      (b := UInt8.ofNat (0x80 + c.val / 0x1000 % 0x40))
    rw [hlead, hsecond] at hmay
    simp only [List.cons_append, List.nil_append]
    rw [pieces_four _ _ (by rw [hlead]; omega) (hmay.2 (by omega)) (isTail_ofNat (by omega))
      (isTail_ofNat (by omega)), join₄, hlead, hsecond, hthird, hfourth, hback]
    omega

theorem pieces_flatMap {t : Text} (h : ∀ c ∈ t, c.isSurrogate = false) (surrogates : Bool) :
    pieces surrogates (t.flatMap encodeChar) = t.map Piece.char := by
  induction t with
  | nil => rw [List.flatMap_nil, pieces.eq_def]; rfl
  | cons c t ih =>
    rw [List.flatMap_cons, pieces_encodeChar (h c (by simp)),
      ih fun d hd => h d (List.mem_cons_of_mem _ hd), List.map_cons]

end Utf8

theorem textOfPieces_map_char (name : Text) (width : CodePoint → Nat) (leniency : Leniency)
    (position : Nat) (t : Text) :
    textOfPieces name width leniency position (t.map Piece.char) = .ok t := by
  induction t generalizing position with
  | nil => rfl
  | cons c t ih => rw [List.map_cons, textOfPieces, ih, map_ok]

/-- A strict conversion stops at the first stretch of bytes that stands for no character. -/
theorem exists_of_textOfPieces_strict_eq_error {name : Text} {width : CodePoint → Nat}
    {position : Nat} {pieces : List Piece} {flaw : ConversionFlaw}
    (h : textOfPieces name width .strict position pieces = .error flaw) :
    ∃ start reason stretch, flaw = .undecodable name start reason stretch := by
  induction pieces generalizing position with
  | nil => cases h
  | cons piece rest ih =>
    cases piece with
    | char c => exact ih (map_eq_error_iff.1 h)
    | bad reason stretch =>
      cases h
      exact ⟨position, reason, stretch, rfl⟩

namespace Charset

theorem encode_strict_iff {charset : Charset} {t : Text} {content : Bytes} :
    charset.encode .strict t = .ok content ↔
      (∀ c ∈ t, charset.knows c = true) ∧ t.flatMap charset.encodeChar = content := by
  have hspan : (t.span charset.knows).2.isEmpty = true ↔ ∀ c ∈ t, charset.knows c = true := by
    rw [List.span_eq_takeWhile_dropWhile, List.isEmpty_iff, List.dropWhile_eq_nil_iff]
  simp only [encode]
  split
  · next h =>
    have hall := hspan.1 h
    simp only [Except.ok.injEq]
    exact ⟨fun heq => ⟨hall, heq⟩, And.right⟩
  · next h =>
    have hunknown : ¬∀ c ∈ t, charset.knows c = true := fun hall => h (hspan.2 hall)
    simp [hunknown]

theorem exists_of_encode_strict_eq_error {charset : Charset} {t : Text} {flaw : ConversionFlaw}
    (h : charset.encode .strict t = .error flaw) :
    ∃ start run, flaw = .unencodable charset start run := by
  simp only [encode] at h
  split at h
  · cases h
  · cases h
    exact ⟨_, _, rfl⟩

end Charset

end ClientRegistration
