import ClientRegistration.Proofs.Json.Nodes
import ClientRegistration.Proofs.Json.Strings
import ClientRegistration.Proofs.Result
namespace ClientRegistration.Json

/-- What a document needs at a node to be read again: an integer is not too long, and a text is
read as it is written. -/
def Writable (ascii : Bool) : Json → Prop
  | .int n => (Nat.toDigits 10 n.natAbs).length ≤ maxIntegerDigits
  | .text t => ReadsBack ascii t
  | .object members => ∀ key ∈ Fields.keys members, ReadsBack ascii key
  | _ => True

def startsScalar (c : CodePoint) : Bool :=
  Text.isDigit c || c == ('-' : CodePoint) || c == ('n' : CodePoint) || c == ('t' : CodePoint) ||
    c == ('f' : CodePoint) || c == ('N' : CodePoint) || c == ('I' : CodePoint)

def StartsWith (p : CodePoint → Bool) (s : Text) : Prop := ∃ c tail, s = c :: tail ∧ p c = true

theorem StartsWith.append {p : CodePoint → Bool} {s : Text} (h : StartsWith p s) (rest : Text) :
    StartsWith p (s ++ rest) := by
  obtain ⟨c, tail, rfl, hc⟩ := h
  exact ⟨c, tail ++ rest, rfl, hc⟩

theorem StartsWith.imp {p q : CodePoint → Bool} (hpq : ∀ c, p c = true → q c = true) {s : Text}
    (h : StartsWith p s) : StartsWith q s := by
  obtain ⟨c, tail, rfl, hc⟩ := h
  exact ⟨c, tail, rfl, hpq c hc⟩

theorem StartsWith.eat?_eq_none {p : CodePoint → Bool} {s : Text} (h : StartsWith p s) {c : Char}
    (hc : p c = false) : eat? c s = none := by
  obtain ⟨d, tail, rfl, hd⟩ := h
  refine if_neg ?_
  rintro rfl
  rw [hc] at hd
  cases hd

theorem startsWith_scalar_numeral {n : Numeral} (h : n.Proper) :
    StartsWith startsScalar n.text := by
  obtain ⟨negative, whole, fraction, exponent⟩ := n
  cases negative with
  | true => exact ⟨_, _, rfl, by decide⟩
  | false =>
    cases whole with
    | nil => exact absurd rfl h.whole_ne_nil
    | cons c whole =>
      refine ⟨c, _, rfl, ?_⟩
      simp [startsScalar, h.whole_digits c (by simp)]

theorem startsWith_scalar_ofInt (n : Int) : StartsWith startsScalar (Text.ofInt n) := by
  rw [← Numeral.text_ofInt]
  exact startsWith_scalar_numeral (Numeral.proper_ofInt n)

theorem startsWith_scalar_writeFloat (x : Binary64) : StartsWith startsScalar (writeFloat x) := by
  cases x with
  | nan => exact ⟨_, _, rfl, by decide⟩
  | infinity negative => cases negative <;> exact ⟨_, _, rfl, by decide⟩
  | finite negative exponent fraction =>
    obtain ⟨n, hproper, htext, -⟩ := exists_numeral negative exponent fraction
    rw [writeFloat, ← htext]
    exact startsWith_scalar_numeral hproper

def startsValue (c : CodePoint) : Bool :=
  startsScalar c || c == ('"' : CodePoint) || c == ('[' : CodePoint) || c == ('{' : CodePoint)

theorem startsValue_of_startsScalar (c : CodePoint) (h : startsScalar c = true) :
    startsValue c = true := by
  simp [startsValue, h]

theorem startsWith_write (ascii : Bool) (j : Json) : StartsWith startsValue (j.write ascii) := by
  cases j with
  | null => exact ⟨_, _, rfl, by decide⟩
  | bool b => cases b <;> exact ⟨_, _, rfl, by decide⟩
  | int n => exact (startsWith_scalar_ofInt n).imp startsValue_of_startsScalar
  | float x => exact (startsWith_scalar_writeFloat x).imp startsValue_of_startsScalar
  | text t => exact ⟨_, _, rfl, by decide⟩
  | array items => cases items <;> exact ⟨_, _, rfl, by decide⟩
  | object members => cases members <;> exact ⟨_, _, rfl, by decide⟩

theorem StartsWith.skipBlanks_eq {s : Text} (h : StartsWith startsValue s) : skipBlanks s = s := by
  obtain ⟨c, tail, rfl, hc⟩ := h
  have hblank : isBlank c = false := by
    rw [Bool.eq_false_iff]
    intro hblank
    simp only [isBlank, Bool.or_eq_true, beq_iff_eq] at hblank
    rcases hblank with ((h | h) | h) | h <;>
    · rw [← CodePoint.ofNat_val c, h] at hc
      revert hc
      decide
  simp [skipBlanks, hblank]

theorem Closed.skipBlanks_eq {rest : Text} (h : Closed rest) : skipBlanks rest = rest := by
  cases rest with
  | nil => rfl
  | cons c tail =>
    have hblank : isBlank c = false := h.not_head (by decide) c rfl
    simp [skipBlanks, hblank]

theorem closed_cons {c : CodePoint} (h : c = (',' : CodePoint) ∨ c = (']' : CodePoint) ∨
    c = ('}' : CodePoint)) (rest : Text) : Closed (c :: rest) := by
  intro d hd
  obtain rfl : c = d := by simpa using hd
  exact h

theorem closed_writeItems (ascii : Bool) (items : List Json) (tail : Text) :
    Closed (writeItems ascii items ++ (']' : CodePoint) :: tail) := by
  cases items with
  | nil => exact closed_cons (.inr (.inl rfl)) tail
  | cons item rest => exact closed_cons (.inl rfl) _

theorem closed_writeMembers (ascii : Bool) (members : List (Text × Json)) (tail : Text) :
    Closed (writeMembers ascii members ++ ('}' : CodePoint) :: tail) := by
  cases members with
  | nil => exact closed_cons (.inr (.inr rfl)) tail
  | cons member rest => exact closed_cons (.inl rfl) _

theorem value_scalar {s : Text} (h : StartsWith startsScalar s) (fuel : Nat) :
    value (fuel + 1) s = scalar s := by
  rw [value, h.eat?_eq_none (by decide), h.eat?_eq_none (by decide), h.eat?_eq_none (by decide)]

theorem writeItems_cons (ascii : Bool) (item : Json) (rest : List Json) :
    writeItems ascii (item :: rest) =
      (',' : CodePoint) :: (write ascii item ++ writeItems ascii rest) := rfl

theorem write_array_cons (ascii : Bool) (item : Json) (rest : List Json) :
    write ascii (.array (item :: rest)) =
      ('[' : CodePoint) :: (write ascii item ++ writeItems ascii rest ++ [(']' : CodePoint)]) := by
  rfl

def writeMember (ascii : Bool) (key : Text) (item : Json) : Text :=
  ('"' : CodePoint) :: (key.flatMap (writeChar ascii) ++
    (('"' : CodePoint) :: (':' : CodePoint) :: write ascii item))

theorem writeMembers_cons (ascii : Bool) (key : Text) (item : Json) (rest : List (Text × Json)) :
    writeMembers ascii ((key, item) :: rest) =
      (',' : CodePoint) :: (writeMember ascii key item ++ writeMembers ascii rest) := by
  simp [writeMembers, writeMember, writeText, Text.ofString]

theorem write_object_cons (ascii : Bool) (key : Text) (item : Json) (rest : List (Text × Json)) :
    write ascii (.object ((key, item) :: rest)) =
      ('{' : CodePoint) :: (writeMember ascii key item ++ writeMembers ascii rest ++
        [('}' : CodePoint)]) := by
  simp [write, writeMember, writeText, Text.ofString]

theorem value_text {ascii : Bool} {t : Text} (h : ReadsBack ascii t) (fuel : Nat) (rest : Text) :
    value (fuel + 1) (write ascii (.text t) ++ rest) = .ok (.text t, rest) := by
  have htext : write ascii (.text t) ++ rest =
      ('"' : CodePoint) :: (t.flatMap (writeChar ascii) ++ ('"' : CodePoint) :: rest) := by
    simp [write, writeText, Text.ofString]
  rw [htext, value, eat?_self]
  simp only
  rw [h]
  rfl

mutual

theorem value_write {ascii : Bool} : (j : Json) → j.Every (Writable ascii) → {fuel : Nat} →
    2 * (write ascii j).length ≤ fuel → {rest : Text} → Closed rest →
    value fuel (write ascii j ++ rest) = .ok (j.collapse, rest)
  | j, _, 0, hfuel, rest, _ => by
    obtain ⟨c, tail, htext, -⟩ := startsWith_write ascii j
    rw [htext, List.length_cons] at hfuel
    omega
  | .null, _, fuel + 1, _, rest, _ => rfl
  | .bool b, _, fuel + 1, _, rest, _ => by cases b <;> rfl
  | .int n, h, fuel + 1, _, rest, hrest =>
    (value_scalar ((startsWith_scalar_ofInt n).append rest) fuel).trans (scalar_ofInt h hrest)
  | .float x, _, fuel + 1, _, rest, hrest =>
    (value_scalar ((startsWith_scalar_writeFloat x).append rest) fuel).trans
      (scalar_writeFloat x hrest)
  | .text t, h, fuel + 1, _, rest, _ => value_text h fuel rest
  | .array [], _, fuel + 1, _, rest, _ => rfl
  | .array (item :: others), h, fuel + 1, hfuel, rest, _ => by
    have htext := write_array_cons ascii item others
    have hstart : StartsWith startsValue
        (write ascii item ++ writeItems ascii others ++ (']' : CodePoint) :: rest) :=
      ((startsWith_write ascii item).append _).append _
    have hlength : 2 * (write ascii item ++ writeItems ascii others).length + 1 ≤ fuel := by
      simp only [htext, List.length_cons, List.length_append] at hfuel ⊢
      omega
    have hitems := elements_write (item :: others) h.2 (writeItems_cons ascii item others) hlength
      rest
    rw [htext, List.cons_append, List.append_assoc _ [_], List.singleton_append, value,
      eat?_eq_none (by simp), eat?_self]
    simp only [hstart.skipBlanks_eq, hstart.eat?_eq_none (c := ']') (by decide), hitems]
    rfl
  | .object [], _, fuel + 1, _, rest, _ => rfl
  | .object ((key, item) :: others), h, fuel + 1, hfuel, rest, _ => by
    have htext := write_object_cons ascii key item others
    have hstart : StartsWith startsValue
        (writeMember ascii key item ++ writeMembers ascii others ++ ('}' : CodePoint) :: rest) :=
      ⟨_, _, rfl, by decide⟩
    have hlength : 2 * (writeMember ascii key item ++ writeMembers ascii others).length + 1 ≤
        fuel := by
      simp only [htext, List.length_cons, List.length_append] at hfuel ⊢
      omega
    have hmembers := members_write ((key, item) :: others) h.1 h.2
      (writeMembers_cons ascii key item others) hlength rest
    rw [htext, List.cons_append, List.append_assoc _ [_], List.singleton_append, value,
      eat?_eq_none (by simp), eat?_eq_none (by simp), eat?_self]
    simp only [hstart.skipBlanks_eq, hstart.eat?_eq_none (c := '}') (by decide), hmembers]
    rfl

theorem elements_write {ascii : Bool} : (items : List Json) → EveryItem (Writable ascii) items →
    {s : Text} → writeItems ascii items = (',' : CodePoint) :: s → {fuel : Nat} →
    2 * s.length + 1 ≤ fuel → (tail : Text) →
    elements fuel (s ++ (']' : CodePoint) :: tail) = .ok (collapseItems items, tail)
  | _, _, _, _, 0, hfuel, _ => by omega
  | item :: others, h, s, hs, fuel + 1, hfuel, tail => by
    obtain rfl : write ascii item ++ writeItems ascii others = s :=
      (List.cons.inj ((writeItems_cons ascii item others).symm.trans hs)).2
    have hclosed := closed_writeItems ascii others tail
    have hlength : 2 * (write ascii item).length ≤ fuel := by
      rw [List.length_append] at hfuel
      omega
    have hitem := value_write item h.1 hlength hclosed
    rw [List.append_assoc, elements, hitem]
    simp only [ok_bind, hclosed.skipBlanks_eq]
    cases others with
    | nil => rfl
    | cons next others =>
      have hnext : StartsWith startsValue (write ascii next ++ writeItems ascii others ++
          (']' : CodePoint) :: tail) := ((startsWith_write ascii next).append _).append _
      rw [writeItems_cons] at hfuel
      have hlength : 2 * (write ascii next ++ writeItems ascii others).length + 1 ≤ fuel := by
        simp only [List.length_cons, List.length_append] at hfuel ⊢
        omega
      have hothers := elements_write (next :: others) h.2 (writeItems_cons ascii next others)
        hlength tail
      rw [writeItems_cons, List.cons_append, eat?_eq_none (by simp), eat?_self]
      simp only [hnext.skipBlanks_eq, hothers]
      rfl

theorem members_write {ascii : Bool} : (entries : List (Text × Json)) →
    (∀ key ∈ Fields.keys entries, ReadsBack ascii key) → EveryMember (Writable ascii) entries →
    {s : Text} → writeMembers ascii entries = (',' : CodePoint) :: s → {fuel : Nat} →
    2 * s.length + 1 ≤ fuel → (tail : Text) →
    members fuel (s ++ ('}' : CodePoint) :: tail) = .ok (collapseMembers entries, tail)
  | _, _, _, _, _, 0, hfuel, _ => by omega
  | (key, item) :: others, hkeys, h, s, hs, fuel + 1, hfuel, tail => by
    obtain rfl : writeMember ascii key item ++ writeMembers ascii others = s :=
      (List.cons.inj ((writeMembers_cons ascii key item others).symm.trans hs)).2
    have hclosed := closed_writeMembers ascii others tail
    have hstart : StartsWith startsValue (write ascii item ++ (writeMembers ascii others ++
        ('}' : CodePoint) :: tail)) := (startsWith_write ascii item).append _
    have hlength : 2 * (write ascii item).length ≤ fuel := by
      simp only [writeMember, List.length_cons, List.length_append] at hfuel
      omega
    have hitem := value_write item h.1 hlength hclosed
    have hkey := hkeys key (List.mem_cons_self ..)
    have hcolon : skipBlanks ((':' : CodePoint) :: (write ascii item ++
        (writeMembers ascii others ++ ('}' : CodePoint) :: tail))) = (':' : CodePoint) ::
        (write ascii item ++ (writeMembers ascii others ++ ('}' : CodePoint) :: tail)) := rfl
    rw [List.append_assoc, writeMember, List.cons_append, members, eat?_self]
    simp only [List.append_assoc, List.cons_append]
    rw [hkey]
    simp only [ok_bind, hcolon, eat?_self, hstart.skipBlanks_eq, hitem, hclosed.skipBlanks_eq]
    cases others with
    | nil => rfl
    | cons next others =>
      obtain ⟨key', item'⟩ := next
      have hnext : StartsWith startsValue (writeMember ascii key' item' ++
          writeMembers ascii others ++ ('}' : CodePoint) :: tail) := ⟨_, _, rfl, by decide⟩
      rw [writeMembers_cons] at hfuel
      have hlength : 2 * (writeMember ascii key' item' ++ writeMembers ascii others).length + 1 ≤
          fuel := by
        simp only [List.length_cons, List.length_append] at hfuel ⊢
        omega
      have hothers := members_write ((key', item') :: others)
        (fun key hkey => hkeys key (List.mem_cons_of_mem _ hkey)) h.2
        (writeMembers_cons ascii key' item' others) hlength tail
      rw [writeMembers_cons, List.cons_append, eat?_eq_none (by simp), eat?_self]
      simp only [hnext.skipBlanks_eq, hothers]
      rfl

end

theorem StartsWith.ne_byteOrderMark {s : Text} (h : StartsWith startsValue s) :
    s.head?.map (·.val) ≠ some 0xFEFF := by
  obtain ⟨c, tail, rfl, hc⟩ := h
  intro hmark
  have hval : c.val = 0xFEFF := by simpa using hmark
  rw [← CodePoint.ofNat_val c, hval] at hc
  revert hc
  decide

/-- What is written is read again, but for repeated keys, which are taken together. -/
theorem read_write {ascii : Bool} {j : Json} (h : j.Every (Writable ascii)) :
    read (j.write ascii) = .ok j.collapse := by
  have hstart := startsWith_write ascii j
  have hvalue := value_write j h (Nat.le_succ _) closed_nil
  rw [List.append_nil] at hvalue
  rw [read, if_neg hstart.ne_byteOrderMark, readFromStart, hstart.skipBlanks_eq, hvalue]
  rfl

theorem writable_unicode_of_proper (j : Json) (h : j.Proper) : Writable false j := by
  cases j with
  | int n => exact h
  | text t => exact readsBack_unicode t
  | object members => exact fun key _ => readsBack_unicode key
  | _ => trivial

theorem Readable.read_write {j : Json} (h : j.Readable) : read (j.write false) = .ok j := by
  rw [Json.read_write (h.imp writable_unicode_of_proper), h.collapse_eq]

theorem Readable.write_inj {j k : Json} (hj : j.Readable) (hk : k.Readable) :
    j.write false = k.write false ↔ j = k := by
  constructor
  · intro h
    have hread := hj.read_write
    rw [h, hk.read_write] at hread
    exact (Except.ok.inj hread).symm
  · exact congrArg (write false)

end ClientRegistration.Json
