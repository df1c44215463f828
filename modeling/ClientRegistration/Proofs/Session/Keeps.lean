import ClientRegistration.Session.Variants
namespace ClientRegistration.Session

variable {σ α β : Type}

/-- A relation which holds over no change, and over two changes if over each. -/
class Lasting (R : Session σ → Session σ → Prop) : Prop where
  refl : ∀ s, R s s
  trans : ∀ {s s' s''}, R s s' → R s' s'' → R s s''

/-- A relation holds between any session and the one after an action, whether it fails or not. -/
def Keeps (R : Session σ → Session σ → Prop) (action : Action σ α) : Prop :=
  ∀ s, R s (s.run action).2

variable {R : Session σ → Session σ → Prop} [Lasting R]

theorem keeps_pure (a : α) : Keeps R (pure a : Action σ α) := Lasting.refl

theorem keeps_throw (fault : Fault) : Keeps R (throw fault : Action σ α) := Lasting.refl

theorem keeps_get : Keeps R (get : Action σ (Session σ)) := Lasting.refl

theorem keeps_lift (result : Except Fault α) : Keeps R (lift result : Action σ α) := fun s => by
  rw [run_lift]
  exact Lasting.refl s

theorem Keeps.bind {action : Action σ α} {next : α → Action σ β} (h : Keeps R action)
    (hnext : ∀ a, Keeps R (next a)) : Keeps R (action >>= next) := fun s => by
  have hs := h s
  rw [run_bind]
  generalize s.run action = outcome at hs ⊢
  obtain ⟨fault | a, after⟩ := outcome
  · exact hs
  · exact Lasting.trans hs (hnext a after)

theorem keeps_after_bind (action : Action σ α) {next : α → Action σ β}
    (hnext : ∀ a, Keeps R (next a)) (s : Session σ) :
    R (s.run action).2 (s.run (action >>= next)).2 := by
  rw [run_bind]
  obtain ⟨fault | a, after⟩ := s.run action
  · exact Lasting.refl after
  · exact hnext a after

omit [Lasting R] in
theorem Keeps.map {action : Action σ α} (h : Keeps R action) (f : α → β) :
    Keeps R (f <$> action) := fun s => by
  rw [run_map]
  exact h s

theorem Keeps.tryCatch {action : Action σ α} {handler : Fault → Action σ α}
    (h : Keeps R action) (hhandler : ∀ fault, Keeps R (handler fault)) :
    Keeps R (tryCatch action handler) := fun s => by
  have hs := h s
  rw [run_tryCatch]
  generalize s.run action = outcome at hs ⊢
  obtain ⟨fault | a, after⟩ := outcome
  · exact Lasting.trans hs (hhandler fault after)
  · exact hs

@[simp] theorem run_entry (s : Session σ) (entries : List α) (number : Nat) :
    s.run (entry entries number) =
      (match entries[number]? with
        | some a => .ok a
        | none => .error (.indexOutOfRange "list"), s) := by
  rw [entry]
  cases entries[number]? <;> rfl

theorem run_discard (s : Session σ) (action : Action σ α) :
    s.run (discard action) = ((s.run action).1.map fun _ => (), (s.run action).2) :=
  run_map s _ action

theorem keeps_entry (entries : List α) (number : Nat) :
    Keeps R (entry entries number : Action σ α) := fun s => by
  rw [run_entry]
  exact Lasting.refl s

theorem keeps_handle (number : Nat) : Keeps R (handle number : Action σ (Handle σ)) := by
  refine keeps_get.bind ?_
  intro s
  exact keeps_entry s.handles number

theorem keeps_document (number : Nat) : Keeps R (document number : Action σ Metadata) := by
  refine keeps_get.bind ?_
  intro s
  exact keeps_entry s.documents number

theorem keeps_request (number : Nat) : Keeps R (request number : Action σ Request) := by
  refine keeps_get.bind ?_
  intro s
  exact keeps_entry s.requests number

theorem keeps_task (number : Nat) : Keeps R (task number : Action σ Task) := by
  refine keeps_get.bind ?_
  intro s
  exact keeps_entry s.tasks number

theorem run_handle_bind {s : Session σ} {number : Nat} {h : Handle σ}
    (found : s.handles[number]? = some h) (next : Handle σ → Action σ α) :
    s.run (handle number >>= next) = s.run (next h) := by
  simp only [run_bind, handle, run_get, run_entry, found]

theorem run_document_bind {s : Session σ} {number : Nat} {m : Metadata}
    (hm : s.documents[number]? = some m) (next : Metadata → Action σ α) :
    s.run (document number >>= next) = s.run (next m) := by
  simp only [run_bind, document, run_get, run_entry, hm]

theorem run_get_bind (s : Session σ) (next : Session σ → Action σ α) :
    s.run (get >>= next) = s.run (next s) := by
  rw [run_bind, run_get]

theorem run_bind_of_error {s after : Session σ} {action : Action σ α} {fault : Fault}
    (h : s.run action = (.error fault, after)) (next : α → Action σ β) :
    s.run (action >>= next) = (.error fault, after) := by
  rw [run_bind, h]

theorem run_bind_of_ok {s after : Session σ} {action : Action σ α} {a : α}
    (h : s.run action = (.ok a, after)) (next : α → Action σ β) :
    s.run (action >>= next) = after.run (next a) := by
  rw [run_bind, h]

theorem exists_handle_of_run_bind {s : Session σ} {number : Nat} {next : Handle σ → Action σ α}
    {a : α} (h : (s.run (handle number >>= next)).1 = .ok a) :
    ∃ x, s.handles[number]? = some x := by
  cases found : s.handles[number]? with
  | some x => exact ⟨x, rfl⟩
  | none =>
    simp only [run_bind, handle, run_get, run_entry, found] at h
    cases h

theorem exists_handle_of_prepare {s : Session σ} {number : Nat} {call : Call} {new : Value}
    {request : Request} (h : (s.run (prepare number call new)).1 = .ok request) :
    ∃ x, s.handles[number]? = some x := by
  cases call with
  | read => exact exists_handle_of_run_bind h
  | update => exact exists_handle_of_run_bind h
  | delete => exact exists_handle_of_run_bind h

theorem keeps_prepare (hlog : ∀ record, Keeps R (log record)) (number : Nat) (call : Call)
    (new : Value) : Keeps R (prepare number call new) := by
  cases call with
  | read => exact (keeps_handle number).bind fun _ => keeps_lift _
  | delete => exact (keeps_handle number).bind fun _ => keeps_lift _
  | update =>
    refine (keeps_handle number).bind ?_
    intro h
    refine (keeps_lift _).bind ?_
    intro _
    refine (keeps_lift _).bind ?_
    intro _
    refine (keeps_document h.document).bind ?_
    intro _
    refine (keeps_lift _).bind ?_
    intro _
    refine (hlog _).bind ?_
    intro _
    refine (hlog _).bind ?_
    intro _
    exact keeps_lift _

theorem keeps_answerEntries (hlog : ∀ record, Keeps R (log record)) (response : Response) :
    Keeps R (answerEntries response) := by
  unfold answerEntries
  split
  · refine (hlog _).bind ?_
    intro _
    exact keeps_throw _
  split
  · exact keeps_pure _
  · split
    · refine (hlog _).bind ?_
      intro _
      exact keeps_throw _
    · exact keeps_throw _
  · refine (hlog _).bind ?_
    intro _
    exact keeps_throw _

theorem keeps_parse (hlog : ∀ record, Keeps R (log record))
    (hcreate : ∀ metadata uri token config filters,
      Keeps R (create metadata uri token config filters))
    (number : Nat) (response : Response) : Keeps R (parse number response) := by
  refine (keeps_handle number).bind ?_
  intro _
  refine (keeps_answerEntries hlog response).bind ?_
  intro _
  refine (hlog _).bind ?_
  intro _
  refine (keeps_lift _).bind ?_
  intro _
  refine keeps_get.bind ?_
  intro _
  refine ((keeps_lift _).map _).bind ?_
  intro _
  exact hcreate _ _ _ _ _

omit [Lasting R] in
theorem keeps_parseDelete (hlog : ∀ record, Keeps R (log record)) (response : Response) :
    Keeps R (parseDelete response) := by
  unfold parseDelete
  split
  · exact hlog _
  · exact hlog _

theorem keeps_interpret (hlog : ∀ record, Keeps R (log record))
    (hcreate : ∀ metadata uri token config filters,
      Keeps R (create metadata uri token config filters))
    (number : Nat) (call : Call) (response : Response) :
    Keeps R (interpret number call response) := by
  cases call with
  | delete => exact (keeps_parseDelete hlog response).bind fun _ => keeps_pure none
  | read => exact (keeps_parse hlog hcreate number response).map some
  | update => exact (keeps_parse hlog hcreate number response).map some

/-- Nothing is different but what goes on beside handles and documents, and the transport is not
released. -/
structure Beside (s s' : Session σ) : Prop where
  handles : s'.handles = s.handles
  documents : s'.documents = s.documents
  variant : s'.variant = s.variant
  script : s'.script = s.script
  releases : s'.releases = s.releases
  journal : ∃ events, s'.journal = s.journal ++ events ∧ Event.released ∉ events

instance : Lasting (Beside : Session σ → Session σ → Prop) where
  refl s := ⟨rfl, rfl, rfl, rfl, rfl, [], (List.append_nil _).symm, List.not_mem_nil⟩
  trans h h' := by
    obtain ⟨events, hjournal, hevents⟩ := h.journal
    obtain ⟨events', hjournal', hevents'⟩ := h'.journal
    refine ⟨h'.handles.trans h.handles, h'.documents.trans h.documents,
      h'.variant.trans h.variant, h'.script.trans h.script, h'.releases.trans h.releases,
      events ++ events', ?_, ?_⟩
    · rw [hjournal', hjournal, List.append_assoc]
    · rw [List.mem_append, not_or]
      exact ⟨hevents, hevents'⟩

theorem beside_modify {f : Session σ → Session σ} (h : ∀ s, Beside s (f s)) :
    Keeps Beside (modify f : Action σ Unit) := h

theorem beside_log (record : LogRecord) : Keeps Beside (log record : Action σ Unit) :=
  fun _ => ⟨rfl, rfl, rfl, rfl, rfl, _, rfl, by simp⟩

theorem beside_setRequest (number : Nat) (request : Request) :
    Keeps Beside (setRequest number request : Action σ Unit) :=
  fun _ => ⟨rfl, rfl, rfl, rfl, rfl, [], (List.append_nil _).symm, List.not_mem_nil⟩

theorem beside_setStage (number : Nat) (t : Task) (stage : Stage) :
    Keeps Beside (setStage number t stage : Action σ Unit) :=
  fun _ => ⟨rfl, rfl, rfl, rfl, rfl, [], (List.append_nil _).symm, List.not_mem_nil⟩

theorem beside_addRequest (request : Request) :
    Keeps Beside (addRequest request : Action σ Nat) :=
  fun _ => ⟨rfl, rfl, rfl, rfl, rfl, [], (List.append_nil _).symm, List.not_mem_nil⟩

theorem beside_addTask (t : Task) : Keeps Beside (addTask t : Action σ Nat) :=
  fun _ => ⟨rfl, rfl, rfl, rfl, rfl, [], (List.append_nil _).symm, List.not_mem_nil⟩

theorem beside_runFilters (number : Nat) (request : Request) :
    Keeps Beside (runFilters number request : Action σ (Request × Option Fault)) := by
  refine (keeps_handle number).bind ?_
  intro h
  refine keeps_get.bind ?_
  intro s
  refine Keeps.bind (beside_modify fun _ => ?_) fun _ => keeps_pure _
  exact ⟨rfl, rfl, rfl, rfl, rfl, _, rfl, by simp⟩

theorem beside_transmit (request : Request) :
    Keeps Beside (transmit request : Action σ (Except Fault Response)) := fun s => by
  rw [run_transmit]
  split
  · exact Lasting.refl s
  · exact ⟨rfl, rfl, rfl, rfl, rfl, _, rfl, by simp⟩

theorem beside_wait (delay : Number) : Keeps Beside (wait delay : Action σ Unit) := fun s => by
  rw [run_wait]
  exact ⟨rfl, rfl, rfl, rfl, rfl, _, rfl, by simp⟩

omit [Lasting R] in
theorem Keeps.imp {R' : Session σ → Session σ → Prop} {action : Action σ α} (h : Keeps R action)
    (himp : ∀ {s s'}, R s s' → R' s s') : Keeps R' action := fun s => himp (h s)

/-- A relation which holds over all that operations are put together of, but for a release of the
transport, the closing of a handle and the editing of a document. -/
structure Upheld (R : Session σ → Session σ → Prop) : Prop where
  beside : ∀ {s s'}, Beside s s' → R s s'
  addDocument : ∀ m, Keeps R (addDocument m : Action σ Nat)
  create : ∀ metadata uri token config filters, Keeps R (create metadata uri token config filters)

namespace Upheld

omit [Lasting R] in
theorem log (h : Upheld R) (record : LogRecord) : Keeps R (log record : Action σ Unit) :=
  (beside_log record).imp h.beside

theorem createOfResponse (h : Upheld R) (response : Value) (config : Config)
    (filters : FilterSet σ) : Keeps R (createOfResponse response config filters) := by
  refine (keeps_lift _).bind ?_
  intro _
  exact h.create _ _ _ _ _

theorem metadata (h : Upheld R) (number : Nat) : Keeps R (metadata number : Action σ Nat) := by
  refine (keeps_handle number).bind ?_
  intro x
  refine (keeps_lift _).bind ?_
  intro _
  refine (keeps_document x.document).bind ?_
  intro _
  exact (keeps_lift _).bind h.addDocument

theorem applyFilters (h : Upheld R) (number : Nat) (request : Request) :
    Keeps R (applyFilters number request : Action σ Request) :=
  ((beside_runFilters number request).imp h.beside).bind fun (_, fault) => by
    cases fault with
    | none => exact keeps_pure _
    | some fault => exact keeps_throw fault

theorem applyToPrepared (h : Upheld R) (number prepared : Nat) :
    Keeps R (applyToPrepared number prepared : Action σ Request) :=
  (keeps_request prepared).bind fun request =>
    ((beside_runFilters number request).imp h.beside).bind fun (_, fault) =>
      ((beside_setRequest prepared _).imp h.beside).bind fun _ => by
        cases fault with
        | none => exact keeps_pure _
        | some fault => exact keeps_throw fault

theorem prepared (h : Upheld R) (number : Nat) (call : Call) (new : Value) :
    Keeps R (do discard (addRequest (← prepare number call new))) :=
  (keeps_prepare h.log number call new).bind fun _ =>
    ((beside_addRequest _).imp h.beside).map _

theorem giveUp (h : Upheld R) (cause : Fault) : Keeps R (giveUp cause : Action σ α) := by
  unfold Session.giveUp
  split
  · exact keeps_throw cause
  · refine Keeps.bind ((h.log _).bind fun _ => keeps_pure _) ?_
    intro fault
    exact keeps_throw fault

theorem send (h : Upheld R) (config : Config) (request : Request) (retries : Nat) :
    Keeps R (send config request retries : Action σ Response) := by
  induction retries with
  | zero =>
    refine ((beside_transmit request).imp h.beside).bind ?_
    intro result
    cases result with
    | ok response => exact keeps_pure response
    | error cause => exact h.giveUp cause
  | succ retries ih =>
    refine ((beside_transmit request).imp h.beside).bind ?_
    intro result
    cases result with
    | ok response => exact keeps_pure response
    | error cause =>
      refine keeps_get.bind ?_
      intro s
      split
      · refine (h.log _).bind ?_
        intro _
        refine ((beside_wait _).imp h.beside).bind ?_
        intro _
        exact ih
      · exact h.giveUp cause

theorem carryOut (h : Upheld R) (number : Nat) (call : Call) (request : Request) :
    Keeps R (carryOut number call request : Action σ (Option Nat)) := by
  refine (h.applyFilters number request).bind ?_
  intro _
  refine (keeps_handle number).bind ?_
  intro _
  refine (h.send _ _ _).bind ?_
  intro _
  exact keeps_interpret h.log h.create number call _

theorem start (h : Upheld R) (number : Nat) (call : Call) (new : Value) :
    Keeps R (start number call new : Action σ Nat) := by
  refine (keeps_prepare h.log number call new).bind ?_
  intro _
  exact (beside_addTask _).imp h.beside

theorem attempt (h : Upheld R) (t : Task) (retries : Nat) :
    Keeps R (attempt t retries : Action σ Progress) := by
  refine ((beside_transmit t.request).imp h.beside).bind ?_
  intro result
  cases result with
  | ok response =>
    refine (keeps_interpret h.log h.create _ _ _).bind ?_
    intro _
    exact keeps_pure _
  | error cause =>
    cases retries with
    | zero => exact h.giveUp cause
    | succ retries =>
      refine keeps_get.bind ?_
      intro s
      dsimp only
      split
      · refine (keeps_handle _).bind ?_
        intro _
        refine (h.log _).bind ?_
        intro _
        exact keeps_pure _
      · exact h.giveUp cause

theorem advance (h : Upheld R) (t : Task) : Keeps R (advance t : Action σ Progress) := by
  unfold Session.advance
  split
  · refine (h.applyFilters _ _).bind ?_
    intro _
    refine (keeps_handle _).bind ?_
    intro _
    exact keeps_pure _
  · exact h.attempt t _
  · refine (keeps_handle _).bind ?_
    intro _
    refine ((beside_wait _).imp h.beside).bind ?_
    intro _
    exact keeps_pure _
  · exact keeps_throw _

theorem stepTask (h : Upheld R) (number : Nat) :
    Keeps R (stepTask number : Action σ (Option (Option Nat))) := by
  refine (keeps_task number).bind ?_
  intro t
  refine ((beside_setStage _ _ _).imp h.beside).bind ?_
  intro _
  refine ((h.advance t).tryCatch fun fault => keeps_throw (throughTask fault)).bind ?_
  intro progress
  cases progress with
  | goesOn request stage =>
    exact ((beside_setStage _ _ _).imp h.beside).bind fun _ => keeps_pure none
  | ends result => exact keeps_pure (some result)

theorem runTask (h : Upheld R) (number fuel : Nat) :
    Keeps R (runTask number fuel : Action σ (Option Nat)) := by
  induction fuel with
  | zero => exact keeps_throw _
  | succ fuel ih =>
    refine (h.stepTask number).bind ?_
    intro result
    cases result with
    | some result => exact keeps_pure result
    | none => exact ih

theorem await (h : Upheld R) (number : Nat) :
    Keeps R (await number : Action σ (Option Nat)) := by
  refine (keeps_task number).bind ?_
  intro _
  refine (keeps_handle _).bind ?_
  intro _
  exact h.runTask _ _

theorem operate (h : Upheld R) (number : Nat) (call : Call) (new : Value) :
    Keeps R (operate number call new : Action σ (Option Nat)) := by
  refine keeps_get.bind ?_
  intro s
  split
  · exact (h.start number call new).bind h.await
  · refine (keeps_prepare h.log number call new).bind ?_
    intro request
    exact h.carryOut number call request
  · exact keeps_throw _

theorem call (h : Upheld R) (number : Nat) (called : Call) (new : Value) :
    Keeps R (call number called new : Action σ Nat) := by
  refine keeps_get.bind ?_
  intro s
  split
  · exact h.start number called new
  · refine (keeps_prepare h.log number called new).bind ?_
    intro request
    refine ((h.carryOut number called request).map _).bind ?_
    intro _
    exact (beside_addTask _).imp h.beside
  · exact keeps_throw _

theorem awaitCall (h : Upheld R) (number : Nat) :
    Keeps R (awaitCall number : Action σ (Option Nat)) := by
  refine keeps_get.bind ?_
  intro s
  dsimp only
  split
  · exact h.await number
  · refine (keeps_task number).bind ?_
    intro _
    exact keeps_throw _

end Upheld

end ClientRegistration.Session
