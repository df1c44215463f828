import ClientRegistration.Proofs.Metadata
import ClientRegistration.Proofs.Registry
import ClientRegistration.Proofs.Session.Keeps
import Mathlib.Logic.Relation
namespace ClientRegistration.Session

variable {σ α β : Type}

/-- One of the ways in which a session changes. -/
inductive Change : Session σ → Session σ → Prop where
  | aside {s s' : Session σ} (handles : s'.handles = s.handles)
      (documents : s'.documents = s.documents) (variant : s'.variant = s.variant)
      (script : s'.script = s.script) (journal : s.journal <+: s'.journal) : Change s s'
  | document (s : Session σ) (m : Metadata) :
      Change s { s with documents := s.documents ++ [m] }
  | handle (s : Session σ) {m : Metadata} (genuine : m.Genuine) (uri token : Value)
      (config : Config) {registry : Registry σ} (normal : registry.Normal) :
      Change s { s with
        documents := s.documents ++ [m]
        handles := s.handles ++
          [{ document := s.documents.length, uri, token, config, registry, closed := false }] }
  | close (s : Session σ) {number : Nat} {h : Handle σ} (found : s.handles[number]? = some h) :
      Change s { s with handles := s.handles.set number { h with closed := true } }
  | edit (s : Session σ) {number : Nat} (free : ∀ h ∈ s.handles, h.document ≠ number)
      (m : Metadata) : Change s { s with documents := s.documents.set number m }

def Changes : Session σ → Session σ → Prop := Relation.ReflTransGen Change

instance : Lasting (Changes : Session σ → Session σ → Prop) where
  refl _ := .refl
  trans h h' := Relation.ReflTransGen.trans h h'

/-- An action which changes sessions in these ways only. -/
abbrev Orderly (action : Action σ α) : Prop := Keeps Changes action

theorem orderly_modify {f : Session σ → Session σ} (h : ∀ s, Change s (f s)) :
    Orderly (modify f : Action σ Unit) := fun s => .single (h s)

theorem orderly_addDocument (m : Metadata) : Orderly (addDocument m : Action σ Nat) := by
  refine keeps_get.bind ?_
  intro s
  refine (orderly_modify fun s => .document s m).bind ?_
  intro _
  exact keeps_pure s.documents.length

def withHandle (s : Session σ) (m : Metadata) (uri token : Value) (config : Config)
    (registry : Registry σ) : Session σ :=
  { s with
    documents := s.documents ++ [m]
    handles := s.handles ++
      [{ document := s.documents.length, uri, token, config, registry, closed := false }] }

theorem run_addHandle (s : Session σ) (m : Metadata) (uri token : Value) (config : Config)
    (filters : FilterSet σ) :
    s.run (addHandle m uri token config filters) =
      match filters.normalize with
      | .ok registry => (.ok s.handles.length, s.withHandle m uri token config registry)
      | .error fault => (.error fault, s) := by
  rw [addHandle, run_bind, run_lift]
  cases filters.normalize <;> rfl

theorem run_create (s : Session σ) (metadata uri token : Value) (config : Config)
    (filters : FilterSet σ) :
    s.run (create metadata uri token config filters) =
      match Metadata.ofValue metadata with
      | .ok m => s.run (addHandle m uri token config filters)
      | .error fault => (.error fault, s) := by
  rw [create, run_bind, run_lift]
  cases Metadata.ofValue metadata <;> rfl

theorem orderly_create (metadata uri token : Value) (config : Config) (filters : FilterSet σ) :
    Orderly (create metadata uri token config filters) := fun s => by
  rw [run_create]
  cases hm : Metadata.ofValue metadata with
  | error fault => exact .refl
  | ok m =>
    simp only [run_addHandle]
    cases hr : filters.normalize with
    | error fault => exact .refl
    | ok registry =>
      exact .single (.handle s (Metadata.genuine_of_ofValue hm) uri token config
        (FilterSet.normal_of_normalize hr))

theorem upheld_changes : Upheld (Changes : Session σ → Session σ → Prop) where
  beside h := by
    obtain ⟨events, hjournal, -⟩ := h.journal
    exact .single (.aside h.handles h.documents h.variant h.script ⟨events, hjournal.symm⟩)
  addDocument := orderly_addDocument
  create := orderly_create

theorem run_markClosed {s : Session σ} {number : Nat} {h : Handle σ}
    (found : s.handles[number]? = some h) :
    s.run (markClosed number) =
      (.ok (), { s with handles := s.handles.set number { h with closed := true } }) := by
  rw [markClosed, run_handle_bind found]
  rfl

theorem orderly_markClosed (number : Nat) : Orderly (markClosed number : Action σ Unit) :=
  fun s => by
  cases found : s.handles[number]? with
  | none =>
    simp only [markClosed, handle, run_bind, run_get, run_entry, found]
    exact .refl
  | some h =>
    rw [run_markClosed found]
    exact .single (.close s found)

theorem orderly_release : Orderly (release : Action σ (Option Fault)) := fun s => by
  rw [run_release]
  exact .single (.aside rfl rfl rfl rfl (List.prefix_append _ _))

/-- The release of the transport and the closing of a handle, the same for every client but for
where it logs. -/
def closeFrom (source : LogSource) (number : Nat) : Action σ Unit := do
  let h ← handle number
  if h.closed then return
  else
    match ← release with
    | none => markClosed number
    | some cause =>
      if cause.interrupts then throw cause
      else
        log (.closeFailed source cause)
        markClosed number

theorem close_eq (number : Nat) :
    (close number : Action σ Unit) = closeFrom .blockingTransport number := rfl

theorem closeAwaiting_eq (number : Nat) :
    (closeAwaiting number : Action σ Unit) = closeFrom .awaitingTransport number := rfl

theorem keeps_closeHandle {R : Session σ → Session σ → Prop} [Lasting R]
    (hlog : ∀ record, Keeps R (log record)) (hrelease : Keeps R release) {number : Nat}
    (hmark : Keeps R (markClosed number)) : Keeps R (closeHandle number : Action σ Unit) := by
  have hclose (source : LogSource) : Keeps R (closeFrom source number) := by
    refine (keeps_handle number).bind ?_
    intro h
    split
    · exact keeps_pure _
    · refine hrelease.bind ?_
      intro fault
      cases fault with
      | none => exact hmark
      | some cause =>
        dsimp only
        split
        · exact keeps_throw cause
        · exact (hlog _).bind fun _ => hmark
  refine keeps_get.bind ?_
  intro s
  split
  · exact closeAwaiting_eq number ▸ hclose .awaitingTransport
  · exact close_eq number ▸ hclose .blockingTransport
  · exact keeps_throw _

theorem orderly_closeHandle (number : Nat) : Orderly (closeHandle number : Action σ Unit) :=
  keeps_closeHandle upheld_changes.log orderly_release (orderly_markClosed number)

end ClientRegistration.Session
