import ClientRegistration.Proofs.Json.RoundTrip
namespace ClientRegistration.Json

theorem digits_of_wholePart? {s whole rest : Text} (h : wholePart? s = some (whole, rest)) :
    Text.AllDigits whole ∧ whole ≠ [] := by
  unfold wholePart? at h
  split at h
  · cases h
  split at h
  · next hc =>
    obtain ⟨rfl, -⟩ := Prod.mk.inj (Option.some.inj h)
    exact ⟨by simp [hc, Text.AllDigits, Text.isDigit, CodePoint.ofChar], by simp⟩
  split at h
  · next c tail _ hdigit =>
    have hspan : Text.spanDigits (c :: tail) = (whole, rest) := Option.some.inj h
    have hdigits := Text.allDigits_spanDigits (c :: tail)
    have hne := Text.spanDigits_ne_nil hdigit tail
    rw [hspan] at hdigits hne
    exact ⟨hdigits, hne⟩
  · cases h

theorem digits_of_number? {s rest : Text} {n : Numeral} (h : number? s = some (n, rest)) :
    Text.AllDigits n.whole ∧ n.whole ≠ [] := by
  simp only [number?, Option.bind_eq_bind, Option.bind_eq_some_iff] at h
  obtain ⟨⟨whole, tail⟩, hwhole, heq⟩ := h
  obtain ⟨rfl, -⟩ := Prod.mk.inj (Option.some.inj heq)
  exact digits_of_wholePart? hwhole

theorem Numeral.readable_of_value {n : Numeral} (hdigits : Text.AllDigits n.whole)
    (hne : n.whole ≠ []) {j : Json} (h : n.value = .ok j) : j.Readable := by
  unfold Numeral.value at h
  split at h
  · split at h
    · cases h
    · next hshort =>
      cases h
      have hle := Text.length_toDigits_valueOfDigits_le hdigits hne
      have habs : (if n.negative = true then -((Text.valueOfDigits n.whole : Nat) : Int)
          else ((Text.valueOfDigits n.whole : Nat) : Int)).natAbs =
          Text.valueOfDigits n.whole := by
        split <;> simp
      change (Nat.toDigits 10 (Int.natAbs _)).length ≤ _
      rw [habs]
      omega
  · cases h
    trivial

theorem readable_of_word? {s rest : Text} {j : Json} (h : word? s = some (j, rest)) :
    j.Readable := by
  obtain ⟨⟨word, document⟩, hmem, hword⟩ := List.exists_of_findSome?_eq_some h
  obtain ⟨tail, -, heq⟩ := Option.map_eq_some_iff.1 hword
  obtain rfl : document = j := (Prod.mk.inj heq).1
  have all : ∀ entry ∈ words, entry.2.Readable := by
    simp [words, Readable, Every, Proper]
  exact all _ hmem

theorem readable_of_scalar {s rest : Text} {j : Json} (h : scalar s = .ok (j, rest)) :
    j.Readable := by
  unfold scalar at h
  split at h
  · next result hword =>
    cases h
    exact readable_of_word? hword
  split at h
  · next n tail hnumber =>
    obtain ⟨hdigits, hne⟩ := digits_of_number? hnumber
    obtain ⟨document, hvalue, heq⟩ := bind_eq_ok_iff.1 h
    cases heq
    exact Numeral.readable_of_value hdigits hne hvalue
  · cases h

mutual

theorem readable_of_value : (fuel : Nat) → {s rest : Text} → {j : Json} →
    value fuel s = .ok (j, rest) → j.Readable
  | 0, _, _, _, h => nomatch h
  | fuel + 1, s, rest, j, h => by
    rw [value] at h
    split at h
    · obtain ⟨⟨t, tail⟩, -, heq⟩ := bind_eq_ok_iff.1 h
      cases heq
      trivial
    · split at h
      · cases h
        exact ⟨trivial, trivial⟩
      · obtain ⟨⟨items, tail⟩, hitems, heq⟩ := bind_eq_ok_iff.1 h
        cases heq
        exact ⟨trivial, everyItem_of_elements fuel hitems⟩
    · split at h
      · cases h
        exact ⟨List.nodup_nil, trivial⟩
      · obtain ⟨⟨entries, tail⟩, hentries, heq⟩ := bind_eq_ok_iff.1 h
        cases heq
        have hevery := everyMember_iff.1 (everyMember_of_members fuel hentries)
        exact ⟨Fields.nodup_keys_collect entries, everyMember_iff.2 fun member hmember =>
          hevery member (Fields.mem_of_mem_collect hmember)⟩
    · exact readable_of_scalar h

theorem everyItem_of_elements : (fuel : Nat) → {s rest : Text} → {items : List Json} →
    elements fuel s = .ok (items, rest) → EveryItem Proper items
  | 0, _, _, _, h => nomatch h
  | fuel + 1, s, rest, items, h => by
    rw [elements] at h
    obtain ⟨⟨item, tail⟩, hitem, h⟩ := bind_eq_ok_iff.1 h
    dsimp only at h
    split at h
    · cases h
      exact ⟨readable_of_value fuel hitem, trivial⟩
    · obtain ⟨⟨others, tail⟩, hothers, heq⟩ := bind_eq_ok_iff.1 h
      cases heq
      exact ⟨readable_of_value fuel hitem, everyItem_of_elements fuel hothers⟩
    · cases h

theorem everyMember_of_members : (fuel : Nat) → {s rest : Text} →
    {entries : List (Text × Json)} → members fuel s = .ok (entries, rest) →
    EveryMember Proper entries
  | 0, _, _, _, h => nomatch h
  | fuel + 1, s, rest, entries, h => by
    rw [members] at h
    split at h
    · cases h
    · obtain ⟨⟨key, tail⟩, -, h⟩ := bind_eq_ok_iff.1 h
      dsimp only at h
      split at h
      · cases h
      · obtain ⟨⟨item, tail⟩, hitem, h⟩ := bind_eq_ok_iff.1 h
        dsimp only at h
        split at h
        · cases h
          exact ⟨readable_of_value fuel hitem, trivial⟩
        · obtain ⟨⟨others, tail⟩, hothers, heq⟩ := bind_eq_ok_iff.1 h
          cases heq
          exact ⟨readable_of_value fuel hitem, everyMember_of_members fuel hothers⟩
        · cases h

end

theorem readable_of_read {s : Text} {j : Json} (h : read s = .ok j) : j.Readable := by
  unfold read at h
  split at h
  · cases h
  · obtain ⟨⟨document, rest⟩, hvalue, h⟩ := bind_eq_ok_iff.1 h
    dsimp only at h
    split at h
    · cases h
      exact readable_of_value _ hvalue
    · cases h

end ClientRegistration.Json
