import ClientRegistration.Proofs.Session.Attempts
namespace ClientRegistration.Session

variable {σ α β : Type}

/-- The last action is taken whether the first one fails or not. Its own failure comes before that
of the first. -/
theorem run_finally (s : Session σ) (action : Action σ α) (last : Action σ Unit) :
    s.run (try action finally last) =
      let after := (s.run action).2
      ((after.run last).1.bind fun _ => (s.run action).1, (after.run last).2) := by
  simp only [tryFinally, tryFinally', run, ExceptT.run, StateT.run, Functor.map, ExceptT.map,
    ExceptT.mk, bind, StateT.bind]
  obtain ⟨fault | a, after⟩ := action s
  · dsimp only
    cases last after with
    | mk ended closed => cases ended <;> rfl
  · dsimp only
    cases last after with
    | mk ended closed => cases ended <;> rfl

/-- An action has the result of another one in sessions which are related, and both leave them
related. -/
def Follows (R : Session σ → Session σ → Prop) (action action' : Action σ α) : Prop :=
  ∀ ⦃s s'⦄, R s s' →
    (s'.run action').1 = (s.run action).1 ∧ R (s.run action).2 (s'.run action').2

section

variable {R : Session σ → Session σ → Prop}

theorem follows_pure (a : α) : Follows R (pure a : Action σ α) (pure a) :=
  fun _ _ related => ⟨rfl, related⟩

theorem follows_throw (fault : Fault) : Follows R (throw fault : Action σ α) (throw fault) :=
  fun _ _ related => ⟨rfl, related⟩

theorem follows_lift (result : Except Fault α) :
    Follows R (lift result : Action σ α) (lift result) := by
  intro s s' related
  rw [run_lift, run_lift]
  exact ⟨rfl, related⟩

theorem Follows.bind {action action' : Action σ α} {next next' : α → Action σ β}
    (h : Follows R action action') (hnext : ∀ a, Follows R (next a) (next' a)) :
    Follows R (action >>= next) (action' >>= next') := by
  intro s s' related
  obtain ⟨hresult, hafter⟩ := h related
  rw [run_bind, run_bind]
  generalize s.run action = outcome at hresult hafter ⊢
  generalize s'.run action' = outcome' at hresult hafter ⊢
  obtain ⟨result, after⟩ := outcome
  obtain ⟨result', after'⟩ := outcome'
  cases hresult
  cases result with
  | error fault => exact ⟨rfl, hafter⟩
  | ok a => exact hnext a hafter

theorem Follows.map {action action' : Action σ α} (h : Follows R action action') (f : α → β) :
    Follows R (f <$> action) (f <$> action') := by
  intro s s' related
  obtain ⟨hresult, hafter⟩ := h related
  rw [run_map, run_map, hresult]
  exact ⟨rfl, hafter⟩

theorem Follows.tryCatch {action action' : Action σ α} {handler handler' : Fault → Action σ α}
    (h : Follows R action action') (hhandler : ∀ fault, Follows R (handler fault) (handler' fault)) :
    Follows R (tryCatch action handler) (tryCatch action' handler') := by
  intro s s' related
  obtain ⟨hresult, hafter⟩ := h related
  rw [run_tryCatch, run_tryCatch]
  generalize s.run action = outcome at hresult hafter ⊢
  generalize s'.run action' = outcome' at hresult hafter ⊢
  obtain ⟨result, after⟩ := outcome
  obtain ⟨result', after'⟩ := outcome'
  cases hresult
  cases result with
  | error fault => exact hhandler fault hafter
  | ok a => exact ⟨rfl, hafter⟩

theorem Follows.insideTask {action action' : Action σ α} (h : Follows R action action') :
    Follows R (insideTask action) (insideTask action') := by
  apply h.tryCatch
  intro fault
  exact follows_throw _

theorem Follows.finally {action action' : Action σ α} {last last' : Action σ Unit}
    (h : Follows R action action') (hlast : Follows R last last') :
    Follows R (try action finally last) (try action' finally last') := by
  intro s s' related
  obtain ⟨hresult, hafter⟩ := h related
  obtain ⟨hended, hclosed⟩ := hlast hafter
  rw [run_finally, run_finally]
  dsimp only
  rw [hresult, hended]
  exact ⟨rfl, hclosed⟩

theorem follows_get_bind {next next' : Session σ → Action σ α}
    (h : ∀ s s', R s s' → Follows R (next s) (next' s')) :
    Follows R (get >>= next) (get >>= next') := by
  intro s s' related
  rw [run_get_bind, run_get_bind]
  exact h s s' related related

theorem follows_entry (entries : List α) (number : Nat) :
    Follows R (entry entries number : Action σ α) (entry entries number) := by
  intro s s' related
  rw [run_entry, run_entry]
  exact ⟨rfl, related⟩

end

/-- A relation of sessions in which handles do the same without the transport: it is kept up by
changes to handles and documents, by filters and by log records. -/
structure Parallel (R : Session σ → Session σ → Prop) : Prop where
  handles : ∀ {s s'}, R s s' → s'.handles = s.handles
  documents : ∀ {s s'}, R s s' → s'.documents = s.documents
  filterState : ∀ {s s'}, R s s' → s'.filterState = s.filterState
  transport : ∀ {s s'}, R s s' → s'.variant.transportArguments.map (fun _ => ()) =
    s.variant.transportArguments.map fun _ => ()
  held : ∀ {s s'}, R s s' → ∀ {handles handles' documents documents'}, handles' = handles →
    documents' = documents →
    R { s with handles, documents } { s' with handles := handles', documents := documents' }
  filtered : ∀ {s s'}, R s s' → ∀ (filterState : σ) (names : List Text),
    R { s with filterState, journal := s.journal ++ names.map .filtered }
      { s' with filterState, journal := s'.journal ++ names.map .filtered }
  logged : ∀ {s s'}, R s s' → ∀ records records', R (s.logged records) (s'.logged records')

namespace Parallel

variable {R : Session σ → Session σ → Prop} (parallel : Parallel R)
include parallel

theorem log (record record' : LogRecord) :
    Follows R (log record : Action σ Unit) (log record') :=
  fun _ _ related => ⟨rfl, parallel.logged related [record] [record']⟩

theorem handle (number : Nat) :
    Follows R (Session.handle number : Action σ _) (Session.handle number) := by
  apply follows_get_bind
  intro s s' related
  rw [parallel.handles related]
  exact follows_entry _ _

theorem document (number : Nat) :
    Follows R (Session.document number : Action σ _) (Session.document number) := by
  apply follows_get_bind
  intro s s' related
  rw [parallel.documents related]
  exact follows_entry _ _

theorem addDocument (m : Metadata) :
    Follows R (Session.addDocument m : Action σ _) (Session.addDocument m) := by
  intro s s' related
  have hdocuments := parallel.documents related
  have hnumber : s'.documents.length = s.documents.length := congrArg _ hdocuments
  exact ⟨congrArg Except.ok hnumber,
    parallel.held related (parallel.handles related) (congrArg (· ++ [m]) hdocuments)⟩

theorem addHandle (m : Metadata) (uri token : Value) (config : Config) (filters : FilterSet σ) :
    Follows R (Session.addHandle m uri token config filters)
      (Session.addHandle m uri token config filters) := by
  intro s s' related
  have hhandles := parallel.handles related
  have hdocuments := parallel.documents related
  rw [run_addHandle, run_addHandle]
  cases filters.normalize with
  | error fault => exact ⟨rfl, related⟩
  | ok registry =>
    have hnumber : s'.handles.length = s.handles.length := congrArg _ hhandles
    have hnew : (s'.withHandle m uri token config registry).handles =
        (s.withHandle m uri token config registry).handles := by
      simp only [withHandle, hhandles, hdocuments]
    exact ⟨congrArg Except.ok hnumber,
      parallel.held related hnew (congrArg (· ++ [m]) hdocuments)⟩

theorem create (metadata uri token : Value) (config : Config) (filters : FilterSet σ) :
    Follows R (Session.create metadata uri token config filters)
      (Session.create metadata uri token config filters) := by
  apply (follows_lift _).bind
  intro m
  exact parallel.addHandle m uri token config filters

theorem createOfResponse (response : Value) (config : Config) (filters : FilterSet σ) :
    Follows R (Session.createOfResponse response config filters)
      (Session.createOfResponse response config filters) := by
  apply (follows_lift _).bind
  intro registration
  exact parallel.create _ _ _ _ _

theorem setHandle (number : Nat) (h : Handle σ) :
    Follows R (Session.setHandle number h) (Session.setHandle number h) := by
  intro s s' related
  exact ⟨rfl, parallel.held related (congrArg (·.set number h) (parallel.handles related))
    (parallel.documents related)⟩

theorem markClosed (number : Nat) :
    Follows R (Session.markClosed number : Action σ Unit) (Session.markClosed number) := by
  apply (parallel.handle number).bind
  intro h
  exact parallel.setHandle number { h with closed := true }

theorem appendFilter (number : Nat) (filter : RequestFilter σ) :
    Follows R (Session.appendFilter number filter) (Session.appendFilter number filter) := by
  apply (parallel.handle number).bind
  intro h
  apply (follows_lift _).bind
  intro registry
  exact parallel.setHandle number { h with registry }

theorem metadata (number : Nat) :
    Follows R (Session.metadata number : Action σ Nat) (Session.metadata number) := by
  apply (parallel.handle number).bind
  intro h
  apply (follows_lift _).bind
  intro _
  apply (parallel.document _).bind
  intro m
  apply (follows_lift _).bind
  intro copied
  exact parallel.addDocument copied

theorem appendToDocument (number : Nat) (key item : Value) :
    Follows R (Session.appendToDocument number key item : Action σ Unit)
      (Session.appendToDocument number key item) := by
  apply (parallel.document number).bind
  intro m
  apply (follows_lift _).bind
  intro changed s s' related
  exact ⟨rfl, parallel.held related (parallel.handles related)
    (congrArg (·.set number changed) (parallel.documents related))⟩

theorem prepare (number : Nat) (call : Call) (new : Value) :
    Follows R (Session.prepare number call new : Action σ Request)
      (Session.prepare number call new) := by
  cases call with
  | read => exact (parallel.handle number).bind fun h => follows_lift _
  | delete => exact (parallel.handle number).bind fun h => follows_lift _
  | update =>
    apply (parallel.handle number).bind
    intro h
    apply (follows_lift _).bind
    intro _
    apply (follows_lift _).bind
    intro given
    apply (parallel.document _).bind
    intro current
    apply (follows_lift _).bind
    intro _
    apply (parallel.log _ _).bind
    intro _
    apply (parallel.log _ _).bind
    intro _
    exact follows_lift _

theorem runFilters (number : Nat) (request : Request) :
    Follows R (Session.runFilters number request : Action σ _)
      (Session.runFilters number request) := by
  apply (parallel.handle number).bind
  intro h s s' related
  rw [run_get_bind, run_get_bind, parallel.filterState related]
  exact ⟨rfl, parallel.filtered related _ _⟩

theorem applyFilters (number : Nat) (request : Request) :
    Follows R (Session.applyFilters number request : Action σ Request)
      (Session.applyFilters number request) := by
  apply (parallel.runFilters number request).bind
  rintro ⟨request, _ | fault⟩
  · exact follows_pure request
  · exact follows_throw fault

theorem answerEntries (response : Response) :
    Follows R (Session.answerEntries response : Action σ _) (Session.answerEntries response) := by
  rw [Session.answerEntries]
  split
  · exact (parallel.log _ _).bind fun _ => follows_throw _
  · split
    · exact follows_pure _
    · split
      · exact (parallel.log _ _).bind fun _ => follows_throw _
      · exact follows_throw _
    · exact (parallel.log _ _).bind fun _ => follows_throw _

theorem parse (number : Nat) (response : Response) :
    Follows R (Session.parse number response : Action σ Nat) (Session.parse number response) := by
  apply (parallel.handle number).bind
  intro h
  apply (parallel.answerEntries response).bind
  intro entries
  apply (parallel.log _ _).bind
  intro _
  apply (follows_lift _).bind
  intro registration
  -- The names under which a new handle is given the transport may differ, but not whether it is.
  have transports : Follows R
      (do discard (lift (← get).variant.transportArguments) : Action σ Unit)
      (do discard (lift (← get).variant.transportArguments)) := by
    apply follows_get_bind
    intro s s' related t t' related'
    rw [run_discard, run_discard, run_lift, run_lift]
    exact ⟨parallel.transport related, related'⟩
  exact transports.bind fun _ => parallel.create _ _ _ _ _

theorem parseDelete (response : Response) :
    Follows R (Session.parseDelete response : Action σ Unit) (Session.parseDelete response) := by
  rw [Session.parseDelete]
  split
  · exact parallel.log _ _
  · exact parallel.log _ _

theorem interpret (number : Nat) (call : Call) (response : Response) :
    Follows R (Session.interpret number call response : Action σ _)
      (Session.interpret number call response) := by
  cases call with
  | read => exact (parallel.parse number response).map some
  | update => exact (parallel.parse number response).map some
  | delete => exact (parallel.parseDelete response).bind fun _ => follows_pure none

end Parallel

end ClientRegistration.Session
