import ClientRegistration.Proofs.Session.Course
namespace ClientRegistration

variable {σ : Type}

def Handle.held (h : Handle σ) (m : Metadata) : Held σ := ⟨m, h.uri, h.token, h.config, h.registry⟩

def Held.requestAt (x : Held σ) (request : Request) : Stage → Request
  | .called => request
  | _ => x.opened.authorized request

/-- One of the things that go on at the same time. The transport may be released and the handle be
marked in different turns of a close. -/
inductive Turn where
  | call (number : Nat) (called : Call) (new : Value)
  | step (task : Nat)
  | close (number : Nat)
  | release
  | markClosed (number : Nat)

def Turn.action : Turn → Action σ Unit
  | .call number called new => discard (Session.call number called new)
  | .step task => discard (Session.stepTask task)
  | .close number => Session.closeHandle number
  | .release => discard Session.release
  | .markClosed number => Session.markClosed number

def Turn.isStepOf (task : Nat) : Turn → Bool
  | .step other => other = task
  | _ => false

theorem Turn.eq_step_of_isStepOf {task : Nat} (turn : Turn) (h : turn.isStepOf task = true) :
    turn = .step task := by
  cases turn with
  | step other => rw [of_decide_eq_true h]
  | _ => cases h

def Task.attempted (t : Task) : List Request :=
  match t.stage with
  | .attempting _ => [t.request]
  | _ => []

namespace Session

def held? (s : Session σ) (number : Nat) : Option (Held σ) := do
  let h ← s.handles[number]?
  let m ← s.documents[h.document]?
  return h.held m

def nextEnding (s : Session σ) : Ending := if s.refuses then .refused else .ended s.nextAnswer

def endingsAt (s : Session σ) : Stage → List Ending
  | .attempting _ => [s.nextEnding]
  | .waiting _ =>
    match s.nextWait with
    | .ok () => []
    | .error fault => [.interrupted fault]
  | _ => []

def told (after : Session σ) :
    Except Fault (Option (Option Nat)) → Option (Except Fault (Option (Held σ)))
  | .ok none => none
  | .ok (some made) => some (.ok (made.bind after.held?))
  | .error fault => some (.error fault)

/-- What a task does in its next step. One that has ended does nothing any more. -/
def share (s : Session σ) (task : Nat) : Course σ :=
  match s.tasks[task]? with
  | none => .idle
  | some t =>
    if t.stage = .finished then .idle
    else
      let outcome := s.run (stepTask task)
      { endings := s.endingsAt t.stage
        requests := t.attempted
        events := outcome.2.visible.drop s.visible.length
        result := outcome.2.told outcome.1 }

def take (s : Session σ) (turn : Turn) : Session σ := (s.run turn.action).2

def takeAll (s : Session σ) : List Turn → Session σ := List.foldl take s

def course (s : Session σ) (task : Nat) : List Turn → Course σ
  | [] => .idle
  | turn :: turns =>
    (if turn.isStepOf task then s.share task else .idle) ++ (s.take turn).course task turns

theorem take_step (s : Session σ) (task : Nat) :
    s.take (.step task) = (s.run (stepTask task)).2 :=
  congrArg Prod.snd (run_discard s (stepTask task))

theorem orderly_turn (turn : Turn) : Orderly (turn.action : Action σ Unit) := by
  cases turn with
  | call number called new => exact (upheld_changes.call number called new).map _
  | step task => exact (upheld_changes.stepTask task).map _
  | close number => exact orderly_closeHandle number
  | release => exact orderly_release.map _
  | markClosed number => exact orderly_markClosed number

theorem changes_take (s : Session σ) (turn : Turn) : Changes s (s.take turn) := orderly_turn turn s

theorem changes_takeAll (s : Session σ) (turns : List Turn) : Changes s (s.takeAll turns) := by
  induction turns generalizing s with
  | nil => exact Lasting.refl s
  | cons turn turns ih => exact Lasting.trans (s.changes_take turn) (ih _)

theorem held?_eq_some_iff {s : Session σ} {number : Nat} {x : Held σ} :
    s.held? number = some x ↔ ∃ h m, s.handles[number]? = some h ∧
      s.documents[h.document]? = some m ∧ h.held m = x := by
  simp only [held?, Option.bind_eq_bind, Option.bind_eq_some_iff, Option.pure_def,
    Option.some.injEq, exists_and_left]

theorem Changes.held?_stays {s s' : Session σ} (changes : Changes s s') {number : Nat} {x : Held σ}
    (held : s.held? number = some x) : s'.held? number = some x := by
  obtain ⟨h, m, found, hm, rfl⟩ := held?_eq_some_iff.1 held
  obtain ⟨closed, found', -⟩ := Changes.handle_stays changes found
  exact held?_eq_some_iff.2
    ⟨_, m, found', changes.document_stays (List.mem_of_getElem? found) hm, rfl⟩

def stepResult : Except Fault Progress → Except Fault (Option (Option Nat))
  | .ok (.goesOn _ _) => .ok none
  | .ok (.ends result) => .ok (some result)
  | .error fault => .error (throughTask fault)

def stepped (t : Task) : Except Fault Progress → Task
  | .ok (.goesOn request stage) => { t with request, stage }
  | _ => { t with stage := .finished }

section

variable {s after : Session σ} {k : Nat} {t : Task} {result : Except Fault Progress}

theorem run_stepTask_of_advance (found : s.tasks[k]? = some t)
    (hrun : s.run (advance t) = (result, after)) :
    s.run (stepTask k) =
      (stepResult result, after.withTasks (s.tasks.set k (stepped t result))) := by
  have hstep := run_stepTask s found
  rw [withTasks_tasks, hrun] at hstep
  rw [hstep]
  rcases result with fault | ⟨request, stage⟩ | made <;> rfl

theorem share_of_advance (found : s.tasks[k]? = some t) (hstage : t.stage ≠ .finished)
    (hrun : s.run (advance t) = (result, after)) {events : List Event}
    (hvisible : after.visible = s.visible ++ events) :
    s.share k =
      { endings := s.endingsAt t.stage
        requests := t.attempted
        events
        result := after.told (stepResult result) } := by
  have hevents : (after.withTasks (s.tasks.set k (stepped t result))).visible.drop
      s.visible.length = events := by
    change after.visible.drop s.visible.length = events
    rw [hvisible, List.drop_left]
  rw [share, found]
  simp only [if_neg hstage, run_stepTask_of_advance found hrun, hevents]
  rfl

end

/-- A task has come to a stage. Whether or not its handle has been closed since the call, it is what
it was. -/
structure Underway (s : Session σ) (k : Nat) (x : Held σ) (call : Call) (request : Request)
    (stage : Stage) : Prop where
  awaiting : s.variant = .awaiting
  unfiltered : x.registry = .listed []
  task : ∃ number document closed,
    s.tasks[k]? = some ⟨number, call, x.requestAt request stage, stage⟩ ∧
    s.handles[number]? = some { x.opened with document, closed }

section

variable {s s' after : Session σ} {k : Nat} {x : Held σ} {call : Call} {request : Request}
  {stage stage' : Stage}

theorem Underway.of_changes (underway : s.Underway k x call request stage) (changes : Changes s s')
    (htask : ∀ t, s.tasks[k]? = some t →
      s'.tasks[k]? = some { t with request := x.requestAt request stage', stage := stage' }) :
    s'.Underway k x call request stage' := by
  obtain ⟨number, document, closed, found, hh⟩ := underway.task
  obtain ⟨closed', hh', -⟩ := Changes.handle_stays changes hh
  exact ⟨changes.variant_eq.trans underway.awaiting, underway.unfiltered, number, document, closed',
    htask _ found, hh'⟩

structure Steps (s : Session σ) (k : Nat) (x : Held σ) (call : Call) (request : Request)
    (stage stage' : Stage) : Prop where
  underway : (s.take (.step k)).Underway k x call request stage'
  proceeds : x.Proceeds call (x.opened.authorized request) 1 stage (s.share k) stage'

theorem Underway.steps_of_advance (underway : s.Underway k x call request stage)
    (hstage : stage ≠ .finished) {t : Task} (found : s.tasks[k]? = some t)
    {result : Except Fault Progress} (hrun : s.run (advance t) = (result, after))
    (hnext : stepped t result =
      { t with request := x.requestAt request stage', stage := stage' })
    {events : List Event} (hvisible : after.visible = s.visible ++ events)
    (proceeds : x.Proceeds call (x.opened.authorized request) 1 stage
      { endings := s.endingsAt t.stage
        requests := t.attempted
        events
        result := after.told (stepResult result) } stage') :
    s.Steps k x call request stage stage' := by
  obtain ⟨_, _, _, found', _⟩ := underway.task
  cases found.symm.trans found'
  refine ⟨underway.of_changes (s.changes_take (.step k)) fun t' ht' => ?_, ?_⟩
  · cases found.symm.trans ht'
    rw [take_step, run_stepTask_of_advance found hrun, hnext]
    exact List.getElem?_set_self (List.getElem?_eq_some_iff.1 found).1
  · rw [share_of_advance found hstage hrun hvisible]
    exact proceeds

theorem Underway.steps_called (underway : s.Underway k x call request .called) :
    ∃ stage', s.Steps k x call request .called stage' := by
  obtain ⟨number, document, closed, found, hh⟩ := underway.task
  have hempty : x.registry.isEmpty = true := by
    rw [underway.unfiltered]
    rfl
  have hfilters : s.run (applyFilters number request) = (x.opened.authorize request, s) :=
    run_applyFilters_of_isEmpty hh hempty request
  have hvisible : s.visible = s.visible ++ [] := (List.append_nil _).symm
  rw [x.opened.authorize_eq] at hfilters
  cases hlong : x.opened.token.hasLongInteger with
  | true =>
    rw [hlong, if_pos rfl] at hfilters
    have hrun : s.run (advance ⟨number, call, request, .called⟩) =
        (.error (.serialization .longInteger), s) := run_bind_of_error hfilters _
    have hrequest : x.requestAt request .finished = request :=
      Handle.authorized_of_hasLongInteger hlong request
    refine ⟨.finished, underway.steps_of_advance (by simp) found hrun ?_ hvisible
      (.unauthorized hlong)⟩
    rw [hrequest]
    rfl
  | false =>
    rw [hlong, if_neg Bool.false_ne_true] at hfilters
    have hrun : s.run (advance ⟨number, call, request, .called⟩) =
        (.ok (.goesOn (x.opened.authorized request) (.attempting x.config.retryCount)), s) :=
      (run_bind_of_ok hfilters _).trans (run_handle_bind hh _)
    exact ⟨_, underway.steps_of_advance (by simp) found hrun rfl hvisible (.called hlong)⟩

theorem Underway.steps_waiting {retries : Nat}
    (underway : s.Underway k x call request (.waiting retries)) :
    ∃ stage', s.Steps k x call request (.waiting retries) stage' := by
  obtain ⟨number, document, closed, found, hh⟩ := underway.task
  let t : Task := ⟨number, call, x.opened.authorized request, .waiting retries⟩
  let waited : Session σ :=
    { s with waits := s.waits + 1, journal := s.journal ++ [.waited x.config.delay] }
  have hvisible : waited.visible = s.visible ++ [.waited x.config.delay] :=
    List.filter_append _ _
  have hwait : s.run (wait x.config.delay) = (s.nextWait, waited) := run_wait s _
  have hadvance : s.run (advance t) =
      s.run (do
        wait x.config.delay
        return .goesOn t.request (.attempting retries)) := run_handle_bind hh _
  cases hnext : s.nextWait with
  | ok _ =>
    have hrun : s.run (advance t) = (.ok (.goesOn t.request (.attempting retries)), waited) := by
      rw [hadvance, run_bind, hwait, hnext]
      rfl
    refine ⟨.attempting retries, underway.steps_of_advance (by simp) found hrun rfl hvisible ?_⟩
    simp only [endingsAt, hnext, t]
    exact .waited retries
  | error fault =>
    have hrun : s.run (advance t) = (.error fault, waited) := by
      rw [hadvance, run_bind, hwait, hnext]
    refine ⟨.finished, underway.steps_of_advance (by simp) found hrun rfl hvisible ?_⟩
    simp only [endingsAt, hnext]
    exact .interrupted fault retries

theorem run_transmit_nextEnding (s : Session σ) (request : Request) :
    ∃ answer, s.nextEnding.answer? = some answer ∧
      s.run (transmit request) = (.ok answer, s.attempted request) ∧
      (s.attempted request).visible = s.visible ++ s.nextEnding.events request := by
  rw [run_transmit, nextEnding, attempted]
  cases s.refuses with
  | true => exact ⟨_, rfl, rfl, (List.append_nil _).symm⟩
  | false => exact ⟨_, rfl, rfl, List.filter_append _ _⟩

theorem run_attempt_givenUp {t : Task} {cause : Fault}
    (htransmit : s.run (transmit t.request) = (.ok (.error cause), after)) {retries : Nat}
    (hlast : retries = 0 ∨ after.variant.isConnectionFault cause = false) :
    s.run (attempt t retries) = after.run (giveUp cause) := by
  rw [attempt, run_bind, htransmit]
  cases retries with
  | zero => rfl
  | succ retries =>
    simp only [run_get_bind, hlast.resolve_left (Nat.succ_ne_zero _), Bool.false_eq_true, ↓reduceIte]

theorem held?_withSuccessor (s : Session σ) (h : Handle σ) (made : Registration) :
    (s.withSuccessor h made).held? s.handles.length =
      some ⟨made.metadata, made.uri, made.token, h.config, h.registry⟩ := by
  simp [held?, withSuccessor, withHandle, Handle.held]

structure Finishes (x : Held σ) (call : Call) (ending : Ending) (s : Session σ)
    (outcome : Except Fault Progress × Session σ) : Prop where
  stepped : ∀ t, stepped t outcome.1 = { t with stage := .finished }
  visible : outcome.2.visible = s.visible
  told : outcome.2.told (stepResult outcome.1) = some (x.conclusion call ending)

theorem finishes_giveUp (s : Session σ) {ending : Ending} {cause : Fault}
    (h : ending.answer? = some (.error cause)) :
    Finishes x call ending s (s.run (giveUp cause)) := by
  rw [run_giveUp]
  split
  · next hinterrupts =>
    refine ⟨fun _ => rfl, rfl, ?_⟩
    rw [Held.conclusion_of_answer? h, if_pos hinterrupts]
    exact congrArg (fun fault => some (Except.error fault)) (throughTask_of_interrupts hinterrupts)
  · next hinterrupts =>
    refine ⟨fun _ => rfl, s.visible_logged [.unavailable cause], ?_⟩
    rw [Held.conclusion_of_answer? h, if_neg hinterrupts]
    rfl

theorem finishes_interpret {number document : Nat} {closed : Bool}
    (found : s.handles[number]? = some { x.opened with document, closed })
    (normal : x.registry.Normal) (htransport : s.variant ≠ .abstract) (call : Call)
    (response : Response) :
    Finishes x call (.ended (.ok response)) s
      (s.run (.ends <$> interpret number call response)) := by
  obtain ⟨records, hrun⟩ := run_interpret found normal htransport call response
  have hanswer : ({ x.opened with document, closed } : Handle σ).answer call response =
      x.opened.answer call response := rfl
  have hlogged := s.visible_logged records
  rw [run_map, hrun, hanswer]
  cases h : x.opened.answer call response with
  | error fault =>
    refine ⟨fun _ => rfl, hlogged, ?_⟩
    rw [Held.conclusion, h]
    rfl
  | ok made =>
    cases made with
    | none =>
      refine ⟨fun _ => rfl, hlogged, ?_⟩
      rw [Held.conclusion, h]
      rfl
    | some made =>
      refine ⟨fun _ => rfl, hlogged, ?_⟩
      have hheld := (s.logged records).held?_withSuccessor { x.opened with document, closed } made
      rw [Held.conclusion, h]
      exact congrArg (fun held => some (Except.ok held)) hheld

theorem Underway.steps_attempting {retries : Nat}
    (underway : s.Underway k x call request (.attempting retries)) :
    ∃ stage', s.Steps k x call request (.attempting retries) stage' := by
  obtain ⟨number, document, closed, found, hh⟩ := underway.task
  let t : Task := ⟨number, call, x.opened.authorized request, .attempting retries⟩
  obtain ⟨answer, hanswer, htransmit, hvisible⟩ := s.run_transmit_nextEnding t.request
  have hvariant : (s.attempted t.request).variant = .awaiting :=
    (s.variant_attempted t.request).trans underway.awaiting
  have hh' : (s.attempted t.request).handles[number]? = some { x.opened with document, closed } := by
    rw [handles_attempted, hh]
  have hrequests := Ending.requests_of_answer? hanswer t.request
  -- The last attempt ends the task in the same way, whether it has an answer or not.
  have hfinish {outcome : Except Fault Progress × Session σ} (hrun : s.run (advance t) = outcome)
      (finishes : Finishes x call s.nextEnding (s.attempted t.request) outcome)
      (hlast : retries = 0 ∨ s.nextEnding.disconnects = false) :
      s.Steps k x call request (.attempting retries) .finished := by
    refine underway.steps_of_advance (by simp) found hrun (finishes.stepped _)
      (finishes.visible.trans hvisible) ?_
    rw [finishes.told]
    have proceeds : x.Proceeds call (x.opened.authorized request) 1 _ _ _ := .concluded hlast
    rw [Held.conclude, Course.attempt, hrequests] at proceeds
    exact proceeds
  cases answer with
  | ok response =>
    have hending := Ending.eq_ended_of_answer? hanswer
    refine ⟨.finished, hfinish (run_attempt_answered htransmit retries) ?_ (.inr ?_)⟩
    · have normal : x.registry.Normal := underway.unfiltered ▸ rfl
      rw [hending]
      exact finishes_interpret hh' normal (by simp [hvariant]) call response
    · rw [hending]
      rfl
  | error cause =>
    have hdisconnects := Ending.disconnects_of_answer? hanswer
    cases hagain : s.nextEnding.disconnects with
    | false =>
      have hlast : (s.attempted t.request).variant.isConnectionFault cause = false := by
        rw [hvariant, ← hdisconnects, hagain]
      exact ⟨.finished, hfinish (run_attempt_givenUp htransmit (.inr hlast))
        (finishes_giveUp _ hanswer) (.inr hagain)⟩
    | true =>
      cases retries with
      | zero =>
        exact ⟨.finished, hfinish (run_attempt_givenUp htransmit (.inl rfl))
          (finishes_giveUp _ hanswer) (.inl rfl)⟩
      | succ retries =>
        have hconnection : (s.attempted t.request).variant.isConnectionFault cause = true := by
          rw [hvariant, ← hdisconnects, hagain]
        have hrun := run_attempt_repeated htransmit hconnection hh' retries
        have hlogged := (s.attempted t.request).visible_logged [retryRecord t x.config retries]
        refine ⟨.waiting retries, underway.steps_of_advance (by simp) found hrun rfl
          (hlogged.trans hvisible) ?_⟩
        have proceeds : x.Proceeds call (x.opened.authorized request) 1 _ _ _ :=
          .repeated hagain retries
        rw [Course.attempt, hrequests] at proceeds
        exact proceeds

/-- Whatever stage an operation has come to, its next step follows its course. -/
theorem Underway.steps (underway : s.Underway k x call request stage) :
    ∃ stage', s.Steps k x call request stage stage' := by
  cases stage with
  | called => exact underway.steps_called
  | attempting retries => exact underway.steps_attempting
  | waiting retries => exact underway.steps_waiting
  | finished =>
    obtain ⟨number, document, closed, found, -⟩ := underway.task
    have hstep : s.run (stepTask k) =
        (.error (throughTask .reusedTask), s.withTasks (s.tasks.set k _)) :=
      run_stepTask_of_advance found rfl
    refine ⟨.finished, underway.of_changes (s.changes_take (.step k)) fun t ht => ?_, ?_⟩
    · cases found.symm.trans ht
      rw [take_step, hstep]
      exact List.getElem?_set_self (List.getElem?_eq_some_iff.1 found).1
    · rw [share, found]
      exact .ended 1

end

def Stays (k : Nat) (s s' : Session σ) : Prop := ∀ t, s.tasks[k]? = some t → s'.tasks[k]? = some t

instance (k : Nat) : Lasting (Stays k : Session σ → Session σ → Prop) where
  refl _ _ := id
  trans h h' t ht := h' t (h t ht)

theorem stays_log (k : Nat) (record : LogRecord) : Keeps (Stays k) (log record : Action σ Unit) :=
  fun _ _ => id

theorem stays_start (k number : Nat) (call : Call) (new : Value) :
    Keeps (Stays k) (start number call new : Action σ Nat) := by
  apply (keeps_prepare (stays_log k) number call new).bind
  intro request s t found
  exact getElem?_append_of_getElem? found _

theorem stays_release (k : Nat) : Keeps (Stays k) (release : Action σ (Option Fault)) := by
  intro s
  rw [run_release]
  exact fun _ => id

theorem stays_markClosed (k number : Nat) : Keeps (Stays k) (markClosed number : Action σ Unit) :=
  (keeps_handle number).bind fun _ _ _ => id

theorem stays_stepTask {k other : Nat} (h : other ≠ k) :
    Keeps (Stays k) (stepTask other : Action σ (Option (Option Nat))) := by
  intro s t found
  cases hother : s.tasks[other]? with
  | none =>
    rw [stepTask, task, bind_assoc, run_get_bind]
    simp only [run_bind, run_entry, hother, found]
  | some t' =>
    rw [run_stepTask_of_advance hother rfl]
    exact (List.getElem?_set_ne h).trans found

theorem stays_take {s : Session σ} (hvariant : s.variant = .awaiting) {k : Nat} {turn : Turn}
    (hturn : turn.isStepOf k = false) : Stays k s (s.take turn) := by
  cases turn with
  | call number called new =>
    have hcall : s.run (call number called new) = s.run (start number called new) := by
      rw [call, run_get_bind, hvariant]
    rw [take, Turn.action, run_discard, hcall]
    exact stays_start k number called new s
  | step other => exact (stays_stepTask (of_decide_eq_false hturn)).map _ s
  | close number =>
    exact keeps_closeHandle (stays_log k) (stays_release k) (stays_markClosed k number) s
  | release => exact (stays_release k).map _ s
  | markClosed number => exact stays_markClosed k number s

section

variable {s : Session σ} {k : Nat} {x : Held σ} {call : Call} {request : Request} {stage : Stage}

/-- Over any turns an operation follows its course, by as many steps as it has turns of its own. -/
theorem Underway.proceeds (underway : s.Underway k x call request stage) (turns : List Turn) :
    ∃ stage', (s.takeAll turns).Underway k x call request stage' ∧
      x.Proceeds call (x.opened.authorized request) (turns.countP (·.isStepOf k)) stage
        (s.course k turns) stage' := by
  -- Only steps of the task itself add to its course, and all other turns leave it underway.
  induction turns generalizing s stage with
  | nil => exact ⟨stage, underway, .refl stage⟩
  | cons turn turns ih =>
    rw [course, List.countP_cons]
    cases hturn : turn.isStepOf k with
    | true =>
      obtain rfl := turn.eq_step_of_isStepOf hturn
      obtain ⟨next, steps⟩ := underway.steps
      obtain ⟨stage', hunderway, proceeds⟩ := ih steps.underway
      rw [if_pos rfl, if_pos rfl, Nat.add_comm]
      exact ⟨stage', hunderway, steps.proceeds.trans proceeds⟩
    | false =>
      have underway' : (s.take turn).Underway k x call request stage := by
        refine underway.of_changes (s.changes_take turn) fun t ht => ?_
        obtain ⟨number, document, closed, found, -⟩ := underway.task
        cases found.symm.trans ht
        exact stays_take underway.awaiting hturn _ found
      obtain ⟨stage', hunderway, proceeds⟩ := ih underway'
      exact ⟨stage', hunderway, proceeds⟩

end

end Session

end ClientRegistration
