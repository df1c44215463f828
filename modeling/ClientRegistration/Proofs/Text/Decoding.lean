import ClientRegistration.Proofs.Text.Utf8
namespace ClientRegistration

open Text (Piece)

namespace Utf8

theorem ofNat_eq_of_toNat {n : Nat} {b : UInt8} (h : n = b.toNat) : UInt8.ofNat n = b := by
  rw [h, UInt8.ofNat_toNat]

theorem isTail_iff {b : UInt8} : isTail b = true ↔ 0x80 ≤ b.toNat ∧ b.toNat ≤ 0xBF := by
  rw [isTail, Bool.and_eq_true, decide_eq_true_eq, decide_eq_true_eq]

def IsFormOf (bytes : Bytes) (c : CodePoint) : Prop :=
  c.isSurrogate = false ∧ encodeChar c = bytes

section

variable {a b c d : UInt8}

theorem isFormOf_one (ha : a.toNat < 0x80) : IsFormOf [a] (CodePoint.ofNat a.toNat) := by
  have hval : (CodePoint.ofNat a.toNat).val = a.toNat := CodePoint.val_ofNat (by omega)
  refine ⟨CodePoint.isSurrogate_eq_false_iff.2 (by omega), ?_⟩
  simp only [encodeChar, hval, ha, ↓reduceIte, UInt8.ofNat_toNat]

theorem isFormOf_two (ha : 0xC2 ≤ a.toNat ∧ a.toNat < 0xE0) (hb : isTail b = true) :
    IsFormOf [a, b] (join₂ a b) := by
  rw [isTail_iff] at hb
  have hval : (join₂ a b).val = (a.toNat - 0xC0) * 0x40 + (b.toNat - 0x80) :=
    CodePoint.val_ofNat (by omega)
  refine ⟨CodePoint.isSurrogate_eq_false_iff.2 (by omega), ?_⟩
  have hone : ¬(join₂ a b).val < 0x80 := by omega
  have htwo : (join₂ a b).val < 0x800 := by omega
  simp only [encodeChar, hone, htwo, ↓reduceIte]
  rw [ofNat_eq_of_toNat (b := a) (by omega), ofNat_eq_of_toNat (b := b) (by omega)]

theorem isFormOf_three (ha : 0xE0 ≤ a.toNat ∧ a.toNat < 0xF0) (hb : maySecond a b = true)
    (hc : isTail c = true) : IsFormOf [a, b, c] (join₃ a b c) := by
  rw [isTail_iff] at hc
  rw [maySecond_iff] at hb
  have hval : (join₃ a b c).val =
      (a.toNat - 0xE0) * 0x1000 + (b.toNat - 0x80) * 0x40 + (c.toNat - 0x80) :=
    CodePoint.val_ofNat (by omega)
  refine ⟨CodePoint.isSurrogate_eq_false_iff.2 (by omega), ?_⟩
  have hone : ¬(join₃ a b c).val < 0x80 := by omega
  have htwo : ¬(join₃ a b c).val < 0x800 := by omega
  have hthree : (join₃ a b c).val < 0x10000 := by omega
  simp only [encodeChar, hone, htwo, hthree, ↓reduceIte]
  rw [ofNat_eq_of_toNat (b := a) (by omega), ofNat_eq_of_toNat (b := b) (by omega),
    ofNat_eq_of_toNat (b := c) (by omega)]

theorem isFormOf_four (ha : 0xF0 ≤ a.toNat ∧ a.toNat ≤ 0xF4) (hb : maySecond a b = true)
    (hc : isTail c = true) (hd : isTail d = true) : IsFormOf [a, b, c, d] (join₄ a b c d) := by
  rw [isTail_iff] at hc hd
  rw [maySecond_iff] at hb
  have hval : (join₄ a b c d).val = (a.toNat - 0xF0) * 0x40000 + (b.toNat - 0x80) * 0x1000 +
      (c.toNat - 0x80) * 0x40 + (d.toNat - 0x80) := CodePoint.val_ofNat (by omega)
  refine ⟨CodePoint.isSurrogate_eq_false_iff.2 (by omega), ?_⟩
  have hone : ¬(join₄ a b c d).val < 0x80 := by omega
  have htwo : ¬(join₄ a b c d).val < 0x800 := by omega
  have hthree : ¬(join₄ a b c d).val < 0x10000 := by omega
  simp only [encodeChar, hone, htwo, hthree, ↓reduceIte]
  rw [ofNat_eq_of_toNat (b := a) (by omega), ofNat_eq_of_toNat (b := b) (by omega),
    ofNat_eq_of_toNat (b := c) (by omega), ofNat_eq_of_toNat (b := d) (by omega)]

end

theorem pieces_ne_nil (surrogates : Bool) (a : UInt8) (rest : Bytes) :
    pieces surrogates (a :: rest) ≠ [] := by
  rw [pieces.eq_def]
  simp only
  repeat' split
  all_goals exact List.cons_ne_nil _ _

theorem char_cons_inj {x y : CodePoint} {ps qs : List Piece}
    (h : Piece.char x :: ps = .char y :: qs) : x = y ∧ ps = qs :=
  ⟨Piece.char.inj (List.cons.inj h).1, (List.cons.inj h).2⟩

/-- Where the first piece is a character, its bytes come first, and the other pieces are those of
the bytes behind. -/
theorem exists_of_pieces_char {bytes : Bytes} {x : CodePoint} {ps : List Piece}
    (h : pieces false bytes = .char x :: ps) :
    ∃ form rest, bytes = form ++ rest ∧ IsFormOf form x ∧ pieces false rest = ps := by
  cases bytes with
  | nil =>
    rw [pieces.eq_def] at h
    cases h
  | cons a rest =>
    rw [pieces.eq_def] at h
    simp only at h
    split at h
    · next ha =>
      obtain ⟨rfl, rfl⟩ := char_cons_inj h
      exact ⟨[a], rest, rfl, isFormOf_one ha, rfl⟩
    split at h
    · cases h
    next hone hlead =>
    simp only [Bool.or_eq_true, decide_eq_true_eq, not_or] at hlead
    split at h
    · cases h
    next b rest =>
    split at h
    · next htwo =>
      split at h
      · next hb =>
        obtain ⟨rfl, rfl⟩ := char_cons_inj h
        exact ⟨[a, b], rest, rfl, isFormOf_two (by omega) hb, rfl⟩
      · cases h
    next htwo =>
    split at h
    · split at h
      · simp at h
      · cases h
    next hsecond =>
    rw [Bool.not_eq_true, Bool.not_eq_false'] at hsecond
    split at h
    · cases h
    next c rest =>
    split at h
    · cases h
    next hthird =>
    rw [Bool.not_eq_true, Bool.not_eq_false'] at hthird
    split at h
    · next hthree =>
      obtain ⟨rfl, rfl⟩ := char_cons_inj h
      exact ⟨[a, b, c], rest, rfl, isFormOf_three (by omega) hsecond hthird, rfl⟩
    next hthree =>
    split at h
    · cases h
    next d rest =>
    split at h
    · next hfourth =>
      obtain ⟨rfl, rfl⟩ := char_cons_inj h
      exact ⟨[a, b, c, d], rest, rfl, isFormOf_four (by omega) hsecond hthird hfourth, rfl⟩
    · cases h

theorem pieces_eq_map_char_iff {bytes : Bytes} {t : Text} :
    pieces false bytes = t.map Piece.char ↔
      (∀ c ∈ t, c.isSurrogate = false) ∧ t.flatMap encodeChar = bytes := by
  constructor
  · intro h
    induction t generalizing bytes with
    | nil =>
      cases bytes with
      | nil => exact ⟨nofun, rfl⟩
      | cons a rest => exact absurd h (pieces_ne_nil false a rest)
    | cons c t ih =>
      obtain ⟨form, rest, rfl, ⟨hc, rfl⟩, hrest⟩ := exists_of_pieces_char h
      obtain ⟨hclean, rfl⟩ := ih hrest
      exact ⟨List.forall_mem_cons.2 ⟨hc, hclean⟩, rfl⟩
  · rintro ⟨hclean, rfl⟩
    exact pieces_flatMap hclean false

end Utf8

theorem textOfPieces_strict_eq_ok_iff {name : Text} {width : CodePoint → Nat} {position : Nat}
    {pieces : List Piece} {t : Text} :
    textOfPieces name width .strict position pieces = .ok t ↔ pieces = t.map Piece.char := by
  constructor
  · intro h
    induction pieces generalizing position t with
    | nil =>
      cases h
      rfl
    | cons piece rest ih =>
      cases piece with
      | char c =>
        obtain ⟨tail, htail, rfl⟩ := map_eq_ok_iff.1 h
        rw [List.map_cons, ih htail]
      | bad reason stretch => cases h
  · rintro rfl
    exact textOfPieces_map_char name width .strict position t

theorem Charset.decode_strict_utf8_iff {content : Bytes} {t : Text} :
    utf8.decode .strict content = .ok t ↔
      (∀ c ∈ t, c.isSurrogate = false) ∧ t.flatMap Utf8.encodeChar = content := by
  rw [decode, textOfPieces_strict_eq_ok_iff]
  exact Utf8.pieces_eq_map_char_iff

end ClientRegistration
