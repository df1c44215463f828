import ClientRegistration.Proofs.Session.Answers
import ClientRegistration.Proofs.Session.Steady

namespace ClientRegistration

/-- What a caller gives to an operation: a value that nobody can change any more, or a document or
a dictionary which stays in its hands. -/
inductive Given where
  | value (v : Value)
  | document (number : Nat)
  | dictionary (number : Nat)

/-- What a handle takes over as it is. -/
inductive Part where
  | uri
  | token
deriving DecidableEq

namespace Part

def all : List Part := [.uri, .token]

def field : Part → Text
  | .uri => uriField
  | .token => tokenField

end Part

/-- The parts of a response which stay in the hands of the caller that gives it. -/
def Given.keeps : Given → List Part
  | .value _ => []
  | _ => Part.all

namespace Handle

variable {σ : Type}

def part (h : Handle σ) : Part → Value
  | .uri => h.uri
  | .token => h.token

def withPart (h : Handle σ) (v : Value) : Part → Handle σ
  | .uri => { h with uri := v }
  | .token => { h with token := v }

@[simp] theorem withPart_document (h : Handle σ) (v : Value) (part : Part) :
    (h.withPart v part).document = h.document := by
  cases part <;> rfl

@[simp] theorem withPart_registry (h : Handle σ) (v : Value) (part : Part) :
    (h.withPart v part).registry = h.registry := by
  cases part <;> rfl

theorem exists_of_mem_set_withPart {handles : List (Handle σ)} {number : Nat} {h x : Handle σ}
    (found : handles[number]? = some h) {v : Value} {part : Part}
    (hmem : x ∈ handles.set number (h.withPart v part)) :
    ∃ y ∈ handles, y.document = x.document ∧ y.registry = x.registry := by
  rcases List.mem_or_eq_of_mem_set hmem with hold | rfl
  · exact ⟨x, hold, rfl, rfl⟩
  · exact ⟨h, List.mem_of_getElem? found, by simp, by simp⟩

end Handle

/-- Changes in place may make one value of another. A value that can be a key of a mapping stays
what it is. -/
def Value.MayBecome (v w : Value) : Prop :=
  v.unhashable?.isSome ∧ w.unhashable?.isSome ∧ w.kind = v.kind

instance (v w : Value) : Decidable (v.MayBecome w) :=
  inferInstanceAs (Decidable (_ ∧ _ ∧ _))

/-- A session and what callers have in their hands: documents of it, by number, dictionaries, and
those parts of handles which a caller has given and can still change in place. -/
structure Custody (σ : Type) where
  session : Session σ
  documents : List Nat := []
  dictionaries : List (Fields Value Value) := []
  lent : List (Nat × Part) := []

/-- What callers do with a session and with the things in their hands. An edit can leave anything
in a document, but for its text, and in a dictionary. -/
inductive Move (σ : Type) where
  | newDocument (given : Given)
  | newDictionary (entries : Fields Value Value)
  | create (given : Given) (uri token : Value) (config : Config) (filters : FilterSet σ)
  | createOfResponse (given : Given) (config : Config) (filters : FilterSet σ)
  | metadata (number : Nat)
  | toDictionary (document : Nat)
  | operate (number : Nat) (call : Call) (given : Given)
  | call (number : Nat) (call : Call) (given : Given)
  | prepare (number : Nat) (call : Call) (given : Given)
  | stepTask (number : Nat)
  | awaitCall (number : Nat)
  | close (number : Nat)
  | markClosed (number : Nat)
  | editDocument (document : Nat) (fields : Fields Text Value)
  | editDictionary (dictionary : Nat) (entries : Fields Value Value)
  | editPart (number : Nat) (part : Part) (v : Value)

def Move.closes {σ : Type} : Move σ → List Nat
  | .close number | .markClosed number => [number]
  | _ => []

namespace Session

variable {σ : Type}

/-- What the latest answer gives of a part. -/
def latest? (s : Session σ) (part : Part) : Option Value :=
  match s.script.attempt (s.attempts - 1) with
  | .ok response => response.entries?.bind fun entries => given? (entries.get? (.text part.field))
  | .error _ => none

end Session

namespace Custody

open Session

variable {σ α : Type}

def document? (c : Custody σ) (number : Nat) : Option Metadata :=
  if number ∈ c.documents then c.session.documents[number]? else none

def content? (c : Custody σ) : Given → Option Value
  | .value v => some v
  | .document number => (c.document? number).map Metadata.toValue
  | .dictionary number => c.dictionaries[number]?.map Value.mapping

def perform (c : Custody σ) (action : Action σ α) : Custody σ :=
  { c with session := (c.session.run action).2 }

def performOn (c : Custody σ) (given : Given) (action : Value → Action σ α) : Custody σ :=
  match c.content? given with
  | some v => c.perform (action v)
  | none => c

def take (c : Custody σ) (action : Action σ Nat) : Custody σ :=
  match c.session.run action with
  | (.ok number, session) => { c with session, documents := c.documents ++ [number] }
  | (.error _, session) => { c with session }

def takeOn (c : Custody σ) (given : Given) (action : Value → Action σ Nat) : Custody σ :=
  match c.content? given with
  | some v => c.take (action v)
  | none => c

/-- Callers have these parts of the handle in their hands that was not there before, if any. -/
def lending (before after : Custody σ) (parts : List Part) : Custody σ :=
  if before.session.handles.length < after.session.handles.length then
    { after with lent := after.lent ++ parts.map (before.session.handles.length, ·) }
  else after

/-- A new handle has the parts of an older one which the latest answer does not give. -/
def passing (before after : Custody σ) (number : Nat) : Custody σ :=
  before.lending after <| Part.all.filter fun part =>
    (number, part) ∈ before.lent && (after.session.latest? part).isNone

def performTask (c : Custody σ) (number : Nat) (action : Action σ α) : Custody σ :=
  match c.session.tasks[number]? with
  | some t => c.passing (c.perform action) t.handle
  | none => c.perform action

def editPart (c : Custody σ) (number : Nat) (part : Part) (v : Value) : Custody σ :=
  match c.session.handles[number]? with
  | some h =>
    if (number, part) ∈ c.lent ∧ (h.part part).MayBecome v then
      { c with session := { c.session with
        handles := c.session.handles.set number (h.withPart v part) } }
    else c
  | none => c

def after (c : Custody σ) : Move σ → Custody σ
  | .newDocument given => c.takeOn given fun v => do addDocument (← lift (Metadata.ofValue v))
  | .newDictionary entries => { c with dictionaries := c.dictionaries ++ [entries] }
  | .create given uri token config filters =>
    c.lending (c.performOn given fun v => Session.create v uri token config filters) Part.all
  | .createOfResponse given config filters =>
    c.lending (c.performOn given fun v => Session.createOfResponse v config filters) given.keeps
  | .metadata number => c.take (Session.metadata number)
  | .toDictionary number =>
    match (c.document? number).map Metadata.toDictionary with
    | some (.ok (.mapping entries)) => { c with dictionaries := c.dictionaries ++ [entries] }
    | _ => c
  | .operate number called given =>
    c.passing (c.performOn given fun v => Session.operate number called v) number
  | .call number called given =>
    c.passing (c.performOn given fun v => Session.call number called v) number
  | .prepare number called given => c.performOn given fun v => Session.prepare number called v
  | .stepTask number => c.performTask number (Session.stepTask number)
  | .awaitCall number => c.performTask number (Session.awaitCall number)
  | .close number => c.perform (closeHandle number)
  | .markClosed number => c.perform (Session.markClosed number)
  | .editDocument number fields =>
    match c.document? number with
    | some m => { c with session := { c.session with
        documents := c.session.documents.set number { m with fields } } }
    | none => c
  | .editDictionary number entries =>
    { c with dictionaries := c.dictionaries.set number entries }
  | .editPart number part v => c.editPart number part v

end Custody

namespace Value.MayBecome

variable {u v w : Value}

theorem trans (h : u.MayBecome v) (h' : v.MayBecome w) : u.MayBecome w :=
  ⟨h.1, h'.2.1, h'.2.2.trans h.2.2⟩

theorem isNull_eq (h : v.MayBecome w) : w.isNull = v.isNull := by
  have hnull {v : Value} (hv : v.unhashable?.isSome) : v.isNull = false := by
    cases v with
    | null => cases hv
    | _ => rfl
  rw [hnull h.1, hnull h.2.1]

end Value.MayBecome

/-- What has become of a handle: it may have been closed where it may be, and those of its parts
may have changed in place which are lent. -/
structure Handle.Becomes {σ : Type} (closes : Prop) (lent : Part → Prop) (h h' : Handle σ) :
    Prop where
  document : h'.document = h.document
  config : h'.config = h.config
  registry : h'.registry = h.registry
  closed : h'.closed ≠ h.closed → h'.closed = true ∧ closes
  part : ∀ part, h'.part part = h.part part ∨
    lent part ∧ (h.part part).MayBecome (h'.part part)

namespace Handle.Becomes

variable {σ : Type} {closes closes' : Prop} {lent lent' : Part → Prop} {h h' h'' : Handle σ}

theorem refl (h : Handle σ) : Becomes closes lent h h :=
  ⟨rfl, rfl, rfl, fun hne => absurd rfl hne, fun _ => .inl rfl⟩

theorem trans (first : Becomes closes lent h h') (second : Becomes closes' lent' h' h'')
    (hlent : ∀ part, lent' part → lent part) : Becomes (closes ∨ closes') lent h h'' where
  document := second.document.trans first.document
  config := second.config.trans first.config
  registry := second.registry.trans first.registry
  closed hne := by
    by_cases hlater : h''.closed = h'.closed
    · rw [hlater] at hne ⊢
      exact (first.closed hne).imp_right .inl
    · exact (second.closed hlater).imp_right .inr
  part part := by
    rcases first.part part with hsame | ⟨islent, hfirst⟩
    · rw [← hsame]
      exact (second.part part).imp_right (And.imp_left (hlent part))
    · rcases second.part part with hsame | ⟨-, hsecond⟩
      · rw [hsame]
        exact .inr ⟨islent, hfirst⟩
      · exact .inr ⟨islent, hfirst.trans hsecond⟩

theorem imp_closes (becomes : Becomes closes lent h h') (himp : closes → closes') :
    Becomes closes' lent h h' :=
  { becomes with closed := fun hne => (becomes.closed hne).imp_right himp }

theorem withPart (h : Handle σ) {part : Part} (islent : lent part) {v : Value}
    (hbecomes : (h.part part).MayBecome v) : Becomes closes lent h (h.withPart v part) := by
  cases part with
  | uri =>
    refine ⟨rfl, rfl, rfl, fun hne => absurd rfl hne, fun other => ?_⟩
    cases other with
    | uri => exact .inr ⟨islent, hbecomes⟩
    | token => exact .inl rfl
  | token =>
    refine ⟨rfl, rfl, rfl, fun hne => absurd rfl hne, fun other => ?_⟩
    cases other with
    | uri => exact .inl rfl
    | token => exact .inr ⟨islent, hbecomes⟩

end Handle.Becomes

namespace Custody

open Session

variable {σ α : Type}

/-- What callers have in their hands is there, and apart from what handles have for themselves. -/
structure Kept (c : Custody σ) : Prop where
  sound : Sound c.session
  bounded : ∀ number ∈ c.documents, number < c.session.documents.length
  apart : ∀ number ∈ c.documents, ∀ h ∈ c.session.handles, h.document ≠ number
  lent : ∀ number part, (number, part) ∈ c.lent → number < c.session.handles.length

/-- Where one custody leads to: handles are kept but for what is lent of them, and so is what
callers have apart from them. -/
structure Leads (closing : List Nat) (c c' : Custody σ) : Prop where
  handle : ∀ {number : Nat} {h : Handle σ}, c.session.handles[number]? = some h →
    ∃ h', c'.session.handles[number]? = some h' ∧
      h.Becomes (number ∈ closing) (fun part => (number, part) ∈ c.lent) h'
  document : ∀ h ∈ c.session.handles, ∀ m, c.session.documents[h.document]? = some m →
    c'.session.documents[h.document]? = some m
  lent : ∀ number < c.session.handles.length, ∀ part, (number, part) ∈ c'.lent →
    (number, part) ∈ c.lent
  kept : Kept c'

variable {c c' c'' : Custody σ} {closing closing' : List Nat}

theorem Leads.length_le (leads : Leads closing c c') :
    c.session.handles.length ≤ c'.session.handles.length := by
  by_contra hlt
  rw [Nat.not_le] at hlt
  obtain ⟨_, hfound, -⟩ := leads.handle (List.getElem?_eq_getElem hlt)
  exact absurd (List.getElem?_eq_some_iff.1 hfound).1 (Nat.lt_irrefl _)

theorem Leads.trans (first : Leads closing c c') (second : Leads closing' c' c'') :
    Leads (closing ++ closing') c c'' where
  handle {number h} found := by
    have hlt := (List.getElem?_eq_some_iff.1 found).1
    obtain ⟨h', found', hfirst⟩ := first.handle found
    obtain ⟨h'', found'', hsecond⟩ := second.handle found'
    exact ⟨h'', found'', (hfirst.trans hsecond (first.lent number hlt)).imp_closes
      List.mem_append.2⟩
  document h hmem m hm := by
    obtain ⟨number, found⟩ := List.getElem?_of_mem hmem
    obtain ⟨h', found', hfirst⟩ := first.handle found
    have hm' := first.document h hmem m hm
    rw [← hfirst.document] at hm' ⊢
    exact second.document h' (List.mem_of_getElem? found') m hm'
  lent number hlt part hmem :=
    first.lent number hlt part (second.lent number (hlt.trans_le first.length_le) part hmem)
  kept := second.kept

theorem Kept.of_steady (kept : Kept c) {s : Session σ} (steady : Steady closing c.session s) :
    Leads closing c { c with session := s } where
  handle {_ h} found := by
    obtain ⟨closed, found', hclosed⟩ := steady.handle found
    obtain ⟨_, hsame, hstays⟩ := steady.changes.handle_stays found
    cases found'.symm.trans hsame
    refine ⟨_, found', rfl, rfl, rfl, fun hne => ⟨?_, hclosed hne⟩, fun part => .inl ?_⟩
    · cases hheld : h.closed with
      | true => exact hstays hheld
      | false => rwa [hheld, Bool.ne_false_iff] at hne
    · cases part <;> rfl
  document := steady.document
  lent _ _ _ := id
  kept := by
    refine ⟨steady.changes.sound kept.sound, fun number hmem => ?_, fun number hmem x hx => ?_,
      fun number part hmem => ?_⟩
    · exact (kept.bounded number hmem).trans_le steady.length
    · rcases steady.fresh x hx with hnew | ⟨h, hmem', hdocument⟩
      · exact ((kept.bounded number hmem).trans_le hnew).ne'
      · rw [← hdocument]
        exact kept.apart number hmem h hmem'
    · obtain ⟨_, found, -⟩ := steady.handle (List.getElem?_eq_getElem (kept.lent number part hmem))
      exact (List.getElem?_eq_some_iff.1 found).1

theorem Kept.stays (kept : Kept c) (closing : List Nat) : Leads closing c c :=
  kept.of_steady (Lasting.refl c.session)

theorem Kept.perform (kept : Kept c) {action : Action σ α}
    (steady : Keeps (Steady closing) action) : Leads closing c (c.perform action) :=
  kept.of_steady (steady c.session)

theorem Kept.performOn (kept : Kept c) (given : Given) {action : Value → Action σ α}
    (steady : ∀ v, Keeps (Steady closing) (action v)) :
    Leads closing c (c.performOn given action) := by
  rw [Custody.performOn]
  cases c.content? given with
  | none => exact kept.stays closing
  | some v => exact kept.perform (steady v)

theorem Kept.take (kept : Kept c) {action : Action σ Nat}
    (steady : Keeps (Steady closing) action) (adds : AddsDocument action) :
    Leads closing c (c.take action) := by
  have hsteady := steady c.session
  rw [Custody.take]
  cases hrun : c.session.run action with
  | mk result session =>
    rw [hrun] at hsteady
    cases result with
    | error fault => exact kept.of_steady hsteady
    | ok number =>
      obtain ⟨rfl, m, rfl⟩ := adds hrun
      have leads := kept.of_steady hsteady
      -- The new document has the next number, and all that handles have are below it.
      refine ⟨leads.handle, leads.document, leads.lent,
        { leads.kept with bounded := fun n hn => ?_, apart := fun n hn h hmem => ?_ }⟩
      · rcases List.mem_append.1 hn with hold | hnew
        · exact leads.kept.bounded n hold
        · rw [List.mem_singleton.1 hnew]
          simp
      · rcases List.mem_append.1 hn with hold | hnew
        · exact leads.kept.apart n hold h hmem
        · obtain ⟨held, hheld, -⟩ := kept.sound.document h hmem
          rw [List.mem_singleton.1 hnew]
          exact (List.getElem?_eq_some_iff.1 hheld).1.ne

theorem Kept.takeOn (kept : Kept c) (given : Given) {action : Value → Action σ Nat}
    (steady : ∀ v, Keeps (Steady closing) (action v)) (adds : ∀ v, AddsDocument (action v)) :
    Leads closing c (c.takeOn given action) := by
  rw [Custody.takeOn]
  cases c.content? given with
  | none => exact kept.stays closing
  | some v => exact kept.take (steady v) (adds v)

/-- Only parts of a handle that is new come to be lent. -/
theorem Leads.lending (leads : Leads closing c c') (parts : List Part) :
    Leads closing c (c.lending c' parts) := by
  rw [Custody.lending]
  split
  · next hnew =>
    refine ⟨leads.handle, leads.document, fun number hlt part hmem => ?_,
      { leads.kept with lent := fun number part hmem => ?_ }⟩
    · rcases List.mem_append.1 hmem with hold | hmem
      · exact leads.lent number hlt part hold
      · obtain ⟨_, -, heq⟩ := List.mem_map.1 hmem
        cases heq
        exact absurd hlt (Nat.lt_irrefl _)
    · rcases List.mem_append.1 hmem with hold | hmem
      · exact leads.kept.lent number part hold
      · obtain ⟨_, -, heq⟩ := List.mem_map.1 hmem
        cases heq
        exact hnew
  · exact leads

theorem Leads.passing (leads : Leads closing c c') (number : Nat) :
    Leads closing c (c.passing c' number) :=
  leads.lending _

theorem Kept.performTask (kept : Kept c) (number : Nat) {action : Action σ α}
    (steady : Keeps (Steady closing) action) : Leads closing c (c.performTask number action) := by
  rw [Custody.performTask]
  split
  · exact (kept.perform steady).passing _
  · exact kept.perform steady

theorem Kept.editDocument (kept : Kept c) (number : Nat) (fields : Fields Text Value) :
    Leads [] c (c.after (.editDocument number fields)) := by
  rw [after, document?]
  split
  · next m hm =>
    split at hm
    · next held => exact kept.of_steady (steady_edit (kept.apart number held) { m with fields })
    · cases hm
  · exact kept.stays []

theorem Kept.withPart (kept : Kept c) {number : Nat} {h : Handle σ}
    (found : c.session.handles[number]? = some h) {part : Part} (held : (number, part) ∈ c.lent)
    {v : Value} (becomes : (h.part part).MayBecome v) :
    Leads [] c { c with session := { c.session with
      handles := c.session.handles.set number (h.withPart v part) } } where
  handle {other x} hx := by
    by_cases hother : other = number
    · subst hother
      cases found.symm.trans hx
      exact ⟨_, List.getElem?_set_self (List.getElem?_eq_some_iff.1 found).1,
        .withPart h held becomes⟩
    · exact ⟨x, (List.getElem?_set_ne (Ne.symm hother)).trans hx, .refl x⟩
  document _ _ _ := id
  lent _ _ _ := id
  kept := by
    refine ⟨⟨fun x hx => ?_, fun x hx => ?_⟩, kept.bounded, fun n hn x hx => ?_,
      fun n p hlent => ?_⟩
    · obtain ⟨y, hy, hdocument, -⟩ := Handle.exists_of_mem_set_withPart found hx
      rw [← hdocument]
      exact kept.sound.document y hy
    · obtain ⟨y, hy, -, hregistry⟩ := Handle.exists_of_mem_set_withPart found hx
      rw [← hregistry]
      exact kept.sound.registry y hy
    · obtain ⟨y, hy, hdocument, -⟩ := Handle.exists_of_mem_set_withPart found hx
      rw [← hdocument]
      exact kept.apart n hn y hy
    · rw [List.length_set]
      exact kept.lent n p hlent

theorem Kept.editPart (kept : Kept c) (number : Nat) (part : Part) (v : Value) :
    Leads [] c (c.editPart number part v) := by
  rw [Custody.editPart]
  split
  · next h found =>
    split
    · next hedit => exact kept.withPart found hedit.1 hedit.2
    · exact kept.stays []
  · exact kept.stays []

/-- Whatever callers do, handles are kept but for what is lent of them. -/
theorem Kept.after (kept : Kept c) (move : Move σ) : Leads move.closes c (c.after move) := by
  have upheld := upheld_steady (σ := σ) []
  cases move with
  | newDocument given =>
    refine kept.takeOn given (fun v => ?_) fun v => ?_
    · exact (keeps_lift _).bind upheld.addDocument
    · exact AddsDocument.bind (keeps_lift _) addsDocument_addDocument
  | newDictionary entries =>
    have leads := kept.stays []
    exact ⟨leads.handle, leads.document, leads.lent, { kept with }⟩
  | create given uri token config filters =>
    exact (kept.performOn given fun v => upheld.create v uri token config filters).lending _
  | createOfResponse given config filters =>
    exact (kept.performOn given fun v => upheld.createOfResponse v config filters).lending _
  | metadata number => exact kept.take (upheld.metadata number) (addsDocument_metadata number)
  | toDictionary number =>
    have leads := kept.stays []
    rw [Custody.after]
    split
    · exact ⟨leads.handle, leads.document, leads.lent, { kept with }⟩
    · exact leads
  | operate number called given =>
    exact (kept.performOn given fun v => upheld.operate number called v).passing number
  | call number called given =>
    exact (kept.performOn given fun v => upheld.call number called v).passing number
  | prepare number called given =>
    exact kept.performOn given fun v => keeps_prepare upheld.log number called v
  | stepTask number => exact kept.performTask number (upheld.stepTask number)
  | awaitCall number => exact kept.performTask number (upheld.awaitCall number)
  | close number => exact kept.perform (steady_closeHandle number)
  | markClosed number => exact kept.perform (steady_markClosed number)
  | editDocument number fields => exact kept.editDocument number fields
  | editDictionary number entries =>
    have leads := kept.stays []
    exact ⟨leads.handle, leads.document, leads.lent, { kept with }⟩
  | editPart number part v => exact kept.editPart number part v

end Custody

end ClientRegistration
