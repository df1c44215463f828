import ClientRegistration.Proofs.Json.RoundTrip
namespace ClientRegistration.Json

theorem eat?_eq_some_iff {c : Char} {s rest : Text} :
    eat? c s = some rest ↔ s = (c : CodePoint) :: rest := by
  cases s with
  | nil => simp [eat?]
  | cons x tail =>
    rw [eat?]
    split
    · next h => simp [h]
    · next h => simp [h]

theorem scalar_ne_object {s rest : Text} {members : List (Text × Json)} :
    scalar s ≠ .ok (.object members, rest) := by
  intro h
  unfold scalar at h
  split at h
  · next result hword =>
    cases h
    obtain ⟨⟨word, document⟩, hmem, heq⟩ := List.exists_of_findSome?_eq_some hword
    obtain ⟨tail, -, heq⟩ := Option.map_eq_some_iff.1 heq
    cases heq
    simp [words] at hmem
  split at h
  · next n tail hnumber =>
    obtain ⟨document, hvalue, heq⟩ := bind_eq_ok_iff.1 h
    cases heq
    unfold Numeral.value at hvalue
    split at hvalue
    · split at hvalue <;> cases hvalue
    · cases hvalue
  · cases h

theorem exists_of_value_object {fuel : Nat} {s rest : Text} {members : List (Text × Json)}
    (h : value fuel s = .ok (.object members, rest)) :
    ∃ tail, s = ('{' : CodePoint) :: tail ∧
      ((∃ after, skipBlanks tail = ('}' : CodePoint) :: after) ∨
        ∃ fuel result, Json.members fuel (skipBlanks tail) = .ok result) := by
  cases fuel with
  | zero => cases h
  | succ fuel =>
    rw [value] at h
    split at h
    · obtain ⟨⟨t, tail⟩, -, heq⟩ := bind_eq_ok_iff.1 h
      cases heq
    · split at h
      · cases h
      · obtain ⟨⟨items, tail⟩, -, heq⟩ := bind_eq_ok_iff.1 h
        cases heq
    · next _ _ tail _ _ hbrace =>
      refine ⟨tail, eat?_eq_some_iff.1 hbrace, ?_⟩
      split at h
      · next after hclosed => exact .inl ⟨after, eat?_eq_some_iff.1 hclosed⟩
      · obtain ⟨result, hmembers, -⟩ := bind_eq_ok_iff.1 h
        exact .inr ⟨fuel, result, hmembers⟩
    · exact absurd h scalar_ne_object

theorem exists_of_members {fuel : Nat} {s : Text} {result : List (Text × Json) × Text}
    (h : members fuel s = .ok result) :
    ∃ tail key after rest, s = ('"' : CodePoint) :: tail ∧
      stringBody s tail = .ok (key, after) ∧ skipBlanks after = (':' : CodePoint) :: rest := by
  cases fuel with
  | zero => cases h
  | succ fuel =>
    rw [members] at h
    split at h
    · cases h
    · next tail hquote =>
      obtain ⟨⟨key, after⟩, hkey, h⟩ := bind_eq_ok_iff.1 h
      dsimp only at h
      split at h
      · cases h
      · next rest hcolon =>
        exact ⟨tail, key, after, rest, eat?_eq_some_iff.1 hquote, hkey,
          eat?_eq_some_iff.1 hcolon⟩

def IsObjectText (s : Text) : Prop := ∃ members, read s = .ok (.object members)

theorem IsObjectText.exists_tail {s : Text} (h : IsObjectText s) :
    ∃ tail, skipBlanks s = ('{' : CodePoint) :: tail ∧
      ((∃ after, skipBlanks tail = ('}' : CodePoint) :: after) ∨
        ∃ fuel result, Json.members fuel (skipBlanks tail) = .ok result) := by
  obtain ⟨members, h⟩ := h
  unfold read at h
  split at h
  · cases h
  · obtain ⟨⟨document, rest⟩, hvalue, h⟩ := bind_eq_ok_iff.1 h
    dsimp only at h
    split at h
    · cases h
      exact exists_of_value_object hvalue
    · cases h

/-- The inside of a string: characters which are neither quotation marks nor backslashes, and
escapes. What an escape is for does not matter. -/
inductive Escapes : Text → Prop
  | nil : Escapes []
  | plain {c : CodePoint} {s : Text} (quote : c ≠ '"') (slash : c ≠ '\\') (rest : Escapes s) :
    Escapes (c :: s)
  | letter {e : CodePoint} {s : Text} (noUnit : e ≠ 'u') (rest : Escapes s) :
    Escapes (('\\' : CodePoint) :: e :: s)
  | unit {a b c d : CodePoint} {s : Text} (rest : Escapes s) :
    Escapes (('\\' : CodePoint) :: ('u' : CodePoint) :: a :: b :: c :: d :: s)

theorem Escapes.append {s t : Text} (hs : Escapes s) (ht : Escapes t) : Escapes (s ++ t) := by
  induction hs with
  | nil => exact ht
  | plain quote slash _ ih => exact .plain quote slash ih
  | letter noUnit _ ih => exact .letter noUnit ih
  | unit _ ih => exact .unit ih

theorem exists_of_lowSurrogate? {high low : CodePoint} {s : Text}
    (h : lowSurrogate? high s = some low) :
    ∃ a b c d next tail,
      s = ('\\' : CodePoint) :: ('u' : CodePoint) :: a :: b :: c :: d :: next :: tail := by
  unfold lowSurrogate? at h
  split at h
  · next x y a b c d next tail =>
    split at h
    · next hescape =>
      simp only [Bool.and_eq_true, decide_eq_true_eq] at hescape
      obtain ⟨⟨-, rfl⟩, rfl⟩ := hescape
      exact ⟨a, b, c, d, next, tail, rfl⟩
    · cases h
  · cases h

theorem exists_of_stringBody_unit {opening s t after : Text} {a b c d : CodePoint}
    (h : stringBody opening (('\\' : CodePoint) :: ('u' : CodePoint) :: a :: b :: c :: d :: s) =
      .ok (t, after)) :
    (∃ u, stringBody opening s = .ok (u, after)) ∨
      ∃ a b c d tail u,
        s = ('\\' : CodePoint) :: ('u' : CodePoint) :: a :: b :: c :: d :: tail ∧
        stringBody opening tail = .ok (u, after) := by
  have hquote : ('\\' : CodePoint) ≠ ('"' : CodePoint) := by decide
  rw [stringBody.eq_def] at h
  cases s with
  | nil =>
    simp only [hquote, ↓reduceIte] at h
    cases h
  | cons next rest =>
    simp only [hquote, ↓reduceIte] at h
    cases hunit : hex4? a b c d with
    | none =>
      rw [hunit] at h
      cases h
    | some n =>
      rw [hunit] at h
      dsimp only at h
      split at h
      · next low e h₁ h₂ h₃ h₄ tail hlow =>
        obtain ⟨⟨u, left⟩, hbody, h⟩ := bind_eq_ok_iff.1 h
        cases h
        obtain ⟨a, b, c, d, last, tail, heq⟩ := exists_of_lowSurrogate? hlow
        cases heq
        exact .inr ⟨_, _, _, _, _, u, rfl, hbody⟩
      · obtain ⟨⟨u, left⟩, hbody, h⟩ := bind_eq_ok_iff.1 h
        cases h
        exact .inl ⟨u, hbody⟩

theorem Escapes.exists_of_unit {s rest tail : Text} {a b c d : CodePoint} (hs : Escapes s)
    (h : s ++ ('"' : CodePoint) :: rest =
      ('\\' : CodePoint) :: ('u' : CodePoint) :: a :: b :: c :: d :: tail) :
    ∃ s', Escapes s' ∧ tail = s' ++ ('"' : CodePoint) :: rest ∧ s'.length < s.length := by
  cases hs with
  | nil => cases h
  | plain _ slash _ => exact absurd (List.cons.inj h).1 slash
  | letter noUnit _ => exact absurd (List.cons.inj (List.cons.inj h).2).1 noUnit
  | @unit _ _ _ _ s' hs =>
    simp only [List.cons_append, List.cons.injEq, true_and] at h
    refine ⟨s', hs, h.2.2.2.2.symm, ?_⟩
    simp only [List.length_cons]
    omega

theorem Escapes.rest_eq {s : Text} (hs : Escapes s) {opening rest t after : Text}
    (h : stringBody opening (s ++ ('"' : CodePoint) :: rest) = .ok (t, after)) : after = rest := by
  -- two escaped units can be read together, so the induction is on the length
  induction hlength : s.length using Nat.strongRecOn generalizing s t with
  | _ n ih =>
    subst hlength
    have hquote : ('\\' : CodePoint) ≠ ('"' : CodePoint) := by decide
    cases hs with
    | nil =>
      rw [List.nil_append, stringBody_quote] at h
      cases h
      rfl
    | @plain c s quote slash hs =>
      rw [List.cons_append, stringBody.eq_def] at h
      simp only [quote, slash, ↓reduceIte] at h
      split at h
      · cases h
      · obtain ⟨⟨u, left⟩, hbody, h⟩ := bind_eq_ok_iff.1 h
        cases h
        exact ih _ (Nat.lt_succ_self _) hs hbody rfl
    | @letter e s noUnit hs =>
      rw [List.cons_append, List.cons_append, stringBody.eq_def] at h
      simp only [hquote, noUnit, ↓reduceIte] at h
      split at h
      · cases h
      · obtain ⟨⟨u, left⟩, hbody, h⟩ := bind_eq_ok_iff.1 h
        cases h
        have hlt : s.length < s.length + 2 := Nat.lt_add_of_pos_right (by decide)
        exact ih _ hlt hs hbody rfl
    | @unit a b c d s hs =>
      have hlt : s.length < s.length + 6 := Nat.lt_add_of_pos_right (by decide)
      obtain ⟨u, hbody⟩ | ⟨_, _, _, _, tail, u, heq, hbody⟩ := exists_of_stringBody_unit h
      · exact ih _ hlt hs hbody rfl
      · obtain ⟨s', hs', rfl, hshorter⟩ := hs.exists_of_unit heq
        exact ih _ (Nat.lt_trans hshorter hlt) hs' hbody rfl

theorem skipBlanks_cons {c : CodePoint} (blank : isBlank c = false) (tail : Text) :
    skipBlanks (c :: tail) = c :: tail := by
  simp [skipBlanks, blank]

/-- Whether a character neither stands before an object nor goes on with one which is opened. -/
def isForeign (c : CodePoint) : Bool :=
  !isBlank c && c != ('"' : CodePoint) && c != ('{' : CodePoint) && c != ('}' : CodePoint)

theorem not_blank_of_isForeign {c : CodePoint} (h : isForeign c = true) : isBlank c = false := by
  simp only [isForeign, Bool.and_eq_true, Bool.not_eq_true'] at h
  exact h.1.1.1

theorem isForeign_of_startsScalar (c : CodePoint) (h : startsScalar c = true) :
    isForeign c = true := by
  have hskip : skipBlanks [c] = [c] :=
    StartsWith.skipBlanks_eq ⟨c, [], rfl, startsValue_of_startsScalar c h⟩
  have hblank : isBlank c = false := by
    cases hblank : isBlank c with
    | false => rfl
    | true => simp [skipBlanks, hblank] at hskip
  have hne {d : CodePoint} (hd : startsScalar d = false) : c ≠ d := by
    rintro rfl
    cases h.symm.trans hd
  simp only [isForeign, hblank, Bool.not_false, Bool.true_and, Bool.and_eq_true, bne_iff_ne]
  exact ⟨⟨hne (by decide), hne (by decide)⟩, hne (by decide)⟩

theorem not_isObjectText_of_isForeign {s : Text} (hs : StartsWith isForeign s) :
    ¬IsObjectText s := by
  obtain ⟨c, tail, rfl, hc⟩ := hs
  intro h
  obtain ⟨tail', heq, -⟩ := h.exists_tail
  rw [skipBlanks_cons (not_blank_of_isForeign hc)] at heq
  cases heq
  cases hc

/-- A brace opens no object before another one, nor before a character which is in no object's
start. -/
theorem not_isObjectText_of_brace {c : CodePoint} {tail : Text}
    (hc : c = '{' ∨ isForeign c = true) : ¬IsObjectText (('{' : CodePoint) :: c :: tail) := by
  have blank : isBlank c = false := by
    obtain rfl | hc := hc
    · decide
    · exact not_blank_of_isForeign hc
  intro h
  obtain ⟨tail', heq, h⟩ := h.exists_tail
  rw [skipBlanks_cons (by decide)] at heq
  cases heq
  rw [skipBlanks_cons blank] at h
  obtain ⟨after, heq⟩ | ⟨fuel, result, h⟩ := h
  · cases heq
    exact absurd hc (by decide)
  · obtain ⟨_, _, _, _, heq, -⟩ := exists_of_members h
    cases heq
    exact absurd hc (by decide)

theorem not_isObjectText_of_string {s : Text} {c : CodePoint} {tail : Text} (hs : Escapes s)
    (blank : isBlank c = false) (colon : c ≠ ':') :
    ¬IsObjectText
      (('{' : CodePoint) :: ('"' : CodePoint) :: (s ++ ('"' : CodePoint) :: c :: tail)) := by
  intro h
  obtain ⟨tail', heq, h⟩ := h.exists_tail
  cases heq
  obtain ⟨after, heq⟩ | ⟨fuel, result, h⟩ := h
  · cases heq
  · obtain ⟨_, key, after, rest, heq, hkey, hcolon⟩ := exists_of_members h
    cases heq
    rw [hs.rest_eq hkey, skipBlanks_cons blank] at hcolon
    exact colon (List.cons.inj hcolon).1

end ClientRegistration.Json
