import ClientRegistration.Proofs.Session.Sending
namespace ClientRegistration.Session

variable {σ α β : Type}

def withTasks (s : Session σ) (tasks : List Task) : Session σ := { s with tasks }

/-- An action to which tasks make no difference, and which leaves them alone. -/
def TaskFree (action : Action σ α) : Prop :=
  ∀ (s : Session σ) (tasks : List Task),
    (s.withTasks tasks).run action = ((s.run action).1, (s.run action).2.withTasks tasks)

theorem taskFree_pure (a : α) : TaskFree (pure a : Action σ α) := fun _ _ => rfl

theorem taskFree_throw (fault : Fault) : TaskFree (throw fault : Action σ α) := fun _ _ => rfl

theorem taskFree_lift (result : Except Fault α) : TaskFree (lift result : Action σ α) :=
  fun s tasks => by rw [run_lift, run_lift]

theorem taskFree_entry (entries : List α) (number : Nat) :
    TaskFree (entry entries number : Action σ α) := fun s tasks => by rw [run_entry, run_entry]

theorem taskFree_log (record : LogRecord) : TaskFree (log record : Action σ Unit) := fun _ _ => rfl

theorem TaskFree.bind {action : Action σ α} {next : α → Action σ β} (h : TaskFree action)
    (hnext : ∀ a, TaskFree (next a)) : TaskFree (action >>= next) := fun s tasks => by
  rw [run_bind, run_bind, h s tasks]
  generalize s.run action = outcome
  obtain ⟨fault | a, after⟩ := outcome
  · rfl
  · exact hnext a after tasks

theorem TaskFree.map {action : Action σ α} (h : TaskFree action) (f : α → β) :
    TaskFree (f <$> action) := fun s tasks => by
  rw [run_map, run_map, h s tasks]

theorem taskFree_get_bind {next : Session σ → Action σ α}
    (hnext : ∀ s tasks, next (s.withTasks tasks) = next s) (h : ∀ s, TaskFree (next s)) :
    TaskFree (get >>= next) := fun s tasks => by
  rw [run_bind, run_bind, run_get, run_get]
  simp only
  rw [hnext s tasks]
  exact h s s tasks

theorem taskFree_handle (number : Nat) : TaskFree (handle number : Action σ (Handle σ)) :=
  taskFree_get_bind (fun _ _ => rfl) fun s => taskFree_entry s.handles number

theorem taskFree_create (metadata uri token : Value) (config : Config) (filters : FilterSet σ) :
    TaskFree (create metadata uri token config filters) := fun s tasks => by
  rw [run_create, run_create]
  cases Metadata.ofValue metadata with
  | error fault => rfl
  | ok m =>
    simp only [run_addHandle]
    cases filters.normalize <;> rfl

theorem taskFree_runFilters (number : Nat) (request : Request) :
    TaskFree (runFilters number request : Action σ (Request × Option Fault)) := by
  refine (taskFree_handle number).bind ?_
  intro _
  exact taskFree_get_bind (fun _ _ => rfl) fun _ _ _ => rfl

theorem taskFree_applyFilters (number : Nat) (request : Request) :
    TaskFree (applyFilters number request : Action σ Request) :=
  (taskFree_runFilters number request).bind fun (_, fault) => by
    cases fault with
    | none => exact taskFree_pure _
    | some fault => exact taskFree_throw fault

theorem taskFree_answerEntries (response : Response) :
    TaskFree (answerEntries response : Action σ (Fields Value Value)) := by
  unfold answerEntries
  split
  · refine (taskFree_log _).bind ?_
    intro _
    exact taskFree_throw _
  split
  · exact taskFree_pure _
  · split
    · refine (taskFree_log _).bind ?_
      intro _
      exact taskFree_throw _
    · exact taskFree_throw _
  · refine (taskFree_log _).bind ?_
    intro _
    exact taskFree_throw _

theorem taskFree_parse (number : Nat) (response : Response) :
    TaskFree (parse number response : Action σ Nat) :=
  (taskFree_handle number).bind fun _ => (taskFree_answerEntries response).bind fun _ =>
    (taskFree_log _).bind fun _ => (taskFree_lift _).bind fun _ =>
      taskFree_get_bind (fun _ _ => rfl) fun _ =>
        ((taskFree_lift _).map _).bind fun _ => taskFree_create _ _ _ _ _

theorem taskFree_parseDelete (response : Response) :
    TaskFree (parseDelete response : Action σ Unit) := by
  unfold parseDelete
  split
  · exact taskFree_log _
  · exact taskFree_log _

theorem taskFree_interpret (number : Nat) (call : Call) (response : Response) :
    TaskFree (interpret number call response : Action σ (Option Nat)) := by
  cases call with
  | delete => exact (taskFree_parseDelete response).bind fun _ => taskFree_pure none
  | read => exact (taskFree_parse number response).map some
  | update => exact (taskFree_parse number response).map some

theorem taskFree_giveUp (cause : Fault) : TaskFree (giveUp cause : Action σ α) := fun s tasks => by
  rw [run_giveUp, run_giveUp]
  split <;> rfl

theorem taskFree_transmit (request : Request) :
    TaskFree (transmit request : Action σ (Except Fault Response)) := fun s tasks => by
  have hrefuses : (s.withTasks tasks).refuses = s.refuses := rfl
  rw [run_transmit, run_transmit, hrefuses]
  split <;> rfl

theorem taskFree_wait (delay : Number) : TaskFree (wait delay : Action σ Unit) :=
  fun s tasks => by
  rw [run_wait, run_wait]
  rfl

theorem run_insideTask (s : Session σ) (action : Action σ α) :
    s.run (insideTask action) = ((s.run action).1.mapError throughTask, (s.run action).2) := by
  rw [insideTask, run_tryCatch]
  rcases s.run action with ⟨fault | a, after⟩ <;> rfl

theorem taskFree_attempt (t : Task) (retries : Nat) :
    TaskFree (attempt t retries : Action σ Progress) := by
  refine (taskFree_transmit t.request).bind ?_
  intro result
  cases result with
  | ok response => exact (taskFree_interpret _ _ _).bind fun _ => taskFree_pure _
  | error cause =>
    cases retries with
    | zero => exact taskFree_giveUp cause
    | succ retries =>
      refine taskFree_get_bind (fun _ _ => rfl) fun s => ?_
      split
      · refine (taskFree_handle _).bind ?_
        intro _
        refine (taskFree_log _).bind ?_
        intro _
        exact taskFree_pure _
      · exact taskFree_giveUp cause

theorem taskFree_advance (t : Task) : TaskFree (advance t : Action σ Progress) := by
  unfold advance
  split
  · refine (taskFree_applyFilters _ _).bind ?_
    intro _
    refine (taskFree_handle _).bind ?_
    intro _
    exact taskFree_pure _
  · exact taskFree_attempt t _
  · refine (taskFree_handle _).bind ?_
    intro _
    refine (taskFree_wait _).bind ?_
    intro _
    exact taskFree_pure _
  · exact taskFree_throw _

/-- One step of a task: what it comes to is told by `advance`, the task alone keeps track of it. -/
theorem run_stepTask (s : Session σ) {tasks : List Task} {number : Nat} {t : Task}
    (found : tasks[number]? = some t) :
    (s.withTasks tasks).run (stepTask number) =
      match s.run (advance t) with
      | (.ok (.goesOn request stage), after) =>
        (.ok none, after.withTasks (tasks.set number { t with request, stage }))
      | (.ok (.ends result), after) =>
        (.ok (some result), after.withTasks (tasks.set number { t with stage := .finished }))
      | (.error fault, after) =>
        (.error (throughTask fault),
          after.withTasks (tasks.set number { t with stage := .finished })) := by
  have hadvance := taskFree_advance t s (tasks.set number { t with stage := .finished })
  have htask : (s.withTasks tasks).run (task number) = (.ok t, s.withTasks tasks) := by
    rw [task, run_bind, run_get]
    simp only [run_entry, withTasks, found]
  have hset : (s.withTasks tasks).run (setStage number t .finished) =
      (.ok (), s.withTasks (tasks.set number { t with stage := .finished })) := rfl
  rw [stepTask, run_bind, htask]
  simp only
  rw [run_bind, hset]
  simp only
  rw [run_bind, run_insideTask, hadvance]
  rcases s.run (advance t) with ⟨fault | ⟨request, stage⟩ | result, after⟩
  · rfl
  · simp only [Except.mapError, run_bind, run_pure]
    have hagain : (after.withTasks (tasks.set number { t with stage := .finished })).run
        (setStage number { t with request } stage) =
          (.ok (), after.withTasks (tasks.set number { t with request, stage })) := by
      rw [setStage, run_modify]
      simp [withTasks]
    rw [hagain]
  · rfl

/-- An operation with its request carried out in one go, as both kinds of client have it. -/
def carryOutFrom (source : LogSource) (number : Nat) (call : Call) (request : Request) :
    Action σ (Option Nat) := do
  let request ← applyFilters number request
  let config := (← handle number).config
  interpret number call (← sendFrom source config request config.retryCount)

theorem carryOut_eq (number : Nat) (call : Call) (request : Request) :
    (carryOut number call request : Action σ (Option Nat)) =
      carryOutFrom .blockingTransport number call request := by
  simp only [carryOut, carryOutFrom, send_eq]

def finish (t : Task) (config : Config) (retries : Nat) : Action σ (Option Nat) := do
  interpret t.handle t.call (← sendFrom .awaitingTransport config t.request retries)

section

variable {s s' : Session σ} {t : Task}

theorem run_finish_answered {response : Response}
    (h : s.run (transmit t.request) = (.ok (.ok response), s')) (config : Config) (retries : Nat) :
    s.run (finish t config retries) = s'.run (interpret t.handle t.call response) := by
  cases retries <;> simp only [finish, sendFrom, run_bind, h, run_pure]

theorem run_attempt_answered {response : Response}
    (h : s.run (transmit t.request) = (.ok (.ok response), s')) (retries : Nat) :
    s.run (attempt t retries) = s'.run (.ends <$> interpret t.handle t.call response) := by
  rw [attempt, run_bind, h]
  rfl

def retryRecord (t : Task) (config : Config) (retries : Nat) : LogRecord :=
  .retrying .awaitingTransport t.request.uri (config.retryCount - retries) config.retryCount

theorem run_attempt_repeated {cause : Fault} {h : Handle σ}
    (htransmit : s.run (transmit t.request) = (.ok (.error cause), s'))
    (hconnection : s'.variant.isConnectionFault cause = true)
    (hh : s'.handles[t.handle]? = some h) (retries : Nat) :
    s.run (attempt t (retries + 1)) =
      (.ok (.goesOn t.request (.waiting retries)),
        { s' with journal := s'.journal ++ [.logged (retryRecord t h.config retries)] }) := by
  simp only [attempt, run_bind, htransmit, run_get, hconnection, ↓reduceIte, handle, run_entry, hh,
    run_log, run_pure]
  rfl

theorem run_finish_repeated {cause : Fault} {config : Config}
    (htransmit : s.run (transmit t.request) = (.ok (.error cause), s'))
    (hconnection : s'.variant.isConnectionFault cause = true) (retries : Nat) :
    s.run (finish t config (retries + 1)) =
      Session.run { s' with journal := s'.journal ++ [.logged (retryRecord t config retries)] }
        (do wait config.delay; finish t config retries) := by
  simp only [finish, sendFrom, run_bind, htransmit, run_get, hconnection, ↓reduceIte, run_log,
    retryRecord]
  generalize Session.run _ (wait config.delay) = waited
  obtain ⟨fault | _, after⟩ := waited <;> rfl

theorem run_giveUp_eq_error (s : Session σ) (cause : Fault) :
    ∃ (fault : Fault) (after : Session σ),
      ∀ α, s.run (giveUp cause : Action σ α) = (.error fault, after) := by
  by_cases h : cause.interrupts = true
  · exact ⟨cause, s, fun α => by rw [run_giveUp, if_pos h]⟩
  · exact ⟨_, _, fun α => by rw [run_giveUp, if_neg h]⟩

theorem run_runTask_succ {tasks : List Task} {number : Nat} (found : tasks[number]? = some t)
    (fuel : Nat) :
    (s.withTasks tasks).run (runTask number (fuel + 1)) =
      match s.run (advance t) with
      | (.ok (.goesOn request stage), after) =>
        (after.withTasks (tasks.set number { t with request, stage })).run (runTask number fuel)
      | (.ok (.ends result), after) =>
        (.ok result, after.withTasks (tasks.set number { t with stage := .finished }))
      | (.error fault, after) =>
        (.error (throughTask fault),
          after.withTasks (tasks.set number { t with stage := .finished })) := by
  rw [runTask, run_bind, run_stepTask s found]
  rcases s.run (advance t) with ⟨fault | ⟨request, stage⟩ | result, after⟩ <;> rfl

end

/-- A task whose request is sent comes to the same as the loop of attempts inside a task. -/
theorem run_runTask_attempting {s : Session σ} {tasks : List Task} {number fuel retries : Nat}
    {t : Task} (found : tasks[number]? = some t) (hstage : t.stage = .attempting retries)
    (hfuel : 2 * retries + 1 ≤ fuel) {h : Handle σ} (hh : s.handles[t.handle]? = some h) :
    ∃ tasks', (s.withTasks tasks).run (runTask number fuel) =
      ((s.run (finish t h.config retries)).1.mapError throughTask,
        (s.run (finish t h.config retries)).2.withTasks tasks') := by
  induction retries generalizing s tasks fuel t with
  | zero =>
    obtain ⟨fuel, rfl⟩ : ∃ k, fuel = k + 1 := ⟨fuel - 1, by omega⟩
    obtain ⟨result, s', htransmit, -⟩ := sends_transmit t.request s
    rw [run_runTask_succ found]
    simp only [advance, hstage]
    cases result with
    | ok response =>
      rw [run_finish_answered htransmit, run_attempt_answered htransmit, run_map]
      rcases s'.run (interpret t.handle t.call response) with ⟨fault | result, after⟩
      · exact ⟨_, rfl⟩
      · exact ⟨_, rfl⟩
    | error cause =>
      obtain ⟨fault, after, hgiveUp⟩ := run_giveUp_eq_error s' cause
      simp only [attempt, finish, sendFrom, run_bind, htransmit, hgiveUp]
      exact ⟨_, rfl⟩
  | succ retries ih =>
    obtain ⟨fuel, rfl⟩ : ∃ k, fuel = k + 1 + 1 := ⟨fuel - 2, by omega⟩
    obtain ⟨result, s', htransmit, hsends⟩ := sends_transmit t.request s
    rw [run_runTask_succ found]
    simp only [advance, hstage]
    cases result with
    | ok response =>
      rw [run_finish_answered htransmit, run_attempt_answered htransmit, run_map]
      rcases s'.run (interpret t.handle t.call response) with ⟨fault | result, after⟩
      · exact ⟨_, rfl⟩
      · exact ⟨_, rfl⟩
    | error cause =>
      obtain ⟨fault, after, hgiveUp⟩ := run_giveUp_eq_error s' cause
      by_cases hconnection : s'.variant.isConnectionFault cause = true
      · -- The task logs and waits in a step of its own before it sends again.
        obtain ⟨count, hsending, -⟩ := hsends.sending
        have hh' : s'.handles[t.handle]? = some h := by rw [hsending.handles_eq, hh]
        rw [run_attempt_repeated htransmit hconnection hh',
          run_finish_repeated htransmit hconnection]
        simp only
        rw [run_runTask_succ (List.getElem?_set_self (List.getElem?_eq_some_iff.1 found).1)]
        simp only [advance, run_bind, handle, run_get, run_entry, hh', run_wait, run_pure]
        cases nextWait _ with
        | error fault => exact ⟨_, rfl⟩
        | ok _ =>
          have hlength := (List.getElem?_eq_some_iff.1 found).1
          exact @ih _ _ fuel { t with stage := .attempting retries }
            (List.getElem?_set_self (by simpa using hlength)) rfl (by omega) hh'
      · simp only [attempt, finish, sendFrom, run_bind, htransmit, run_get, hconnection,
          Bool.false_eq_true, ↓reduceIte, hgiveUp]
        exact ⟨_, rfl⟩

theorem withTasks_tasks (s : Session σ) : s.withTasks s.tasks = s := rfl

theorem run_runTask_called {s : Session σ} {tasks : List Task} {number : Nat} {t : Task}
    (found : tasks[number]? = some t) (hstage : t.stage = .called) {h : Handle σ}
    (hh : s.handles[t.handle]? = some h) :
    ∃ tasks', (s.withTasks tasks).run (runTask number (2 * h.config.retryCount + 2)) =
      ((s.run (carryOutFrom .awaitingTransport t.handle t.call t.request)).1.mapError throughTask,
        (s.run (carryOutFrom .awaitingTransport t.handle t.call t.request)).2.withTasks
          tasks') := by
  have hquiet := quiet_applyFilters t.handle t.request s t.request
  rw [run_runTask_succ found, carryOutFrom]
  simp only [advance, hstage, run_bind]
  cases hfilters : s.run (applyFilters t.handle t.request) with
  | mk result filtered =>
    rw [hfilters] at hquiet
    have hh' : filtered.handles[t.handle]? = some h := by rw [hquiet.handles_eq, hh]
    cases result with
    | error fault => exact ⟨_, rfl⟩
    | ok request =>
      simp only [handle, run_bind, run_get, run_entry, hh', run_pure]
      have hlength := (List.getElem?_eq_some_iff.1 found).1
      have hsend := @run_runTask_attempting _ filtered _ number (2 * h.config.retryCount + 1) _
        { t with request, stage := .attempting h.config.retryCount }
        (List.getElem?_set_self hlength) rfl (Nat.le_refl _) h hh'
      rw [finish, run_bind] at hsend
      exact hsend

/-- An operation which is awaited at once comes to the same as in one go inside a task. -/
theorem run_performAwaiting (s : Session σ) (number : Nat) (call : Call) (new : Value) :
    ∃ tasks, s.run (performAwaiting number call new) =
      match s.run (prepare number call new) with
      | (.error fault, after) => (.error fault, after)
      | (.ok request, after) =>
        ((after.run (carryOutFrom .awaitingTransport number call request)).1.mapError throughTask,
          (after.run (carryOutFrom .awaitingTransport number call request)).2.withTasks tasks) := by
  have hquiet := fun request => keeps_prepare quiet_log number call new s request
  have hexists := @exists_handle_of_prepare _ s number call new
  rw [performAwaiting, run_bind, start, run_bind]
  cases hprepare : s.run (prepare number call new) with
  | mk result after =>
    rw [hprepare] at hquiet hexists
    cases result with
    | error fault => exact ⟨[], rfl⟩
    | ok request =>
      obtain ⟨h, hh⟩ := hexists rfl
      rw [← (hquiet request).handles_eq] at hh
      have found : (after.tasks ++ [⟨number, call, request, .called⟩])[after.tasks.length]? =
          some ⟨number, call, request, .called⟩ := List.getElem?_concat_length
      obtain ⟨tasks, hrun⟩ := run_runTask_called (s := after) found rfl hh
      refine ⟨tasks, ?_⟩
      have hadd : after.run (addTask ⟨number, call, request, .called⟩) =
          (.ok after.tasks.length,
            after.withTasks (after.tasks ++ [⟨number, call, request, .called⟩])) := rfl
      simp only [hadd, await, task, handle, run_bind, run_get, run_entry, withTasks, found, hh]
      exact hrun

end ClientRegistration.Session
