import ClientRegistration.Proofs.Session.Attempts
namespace ClientRegistration

variable {σ : Type}

namespace Handle

end Handle

namespace Session

/-- The outcome of a request that has been prepared in a session: of carrying it out at once, of
awaiting the task that has it, or of the operation which has prepared it. -/
inductive Executed (s : Session σ) (number : Nat) (call : Call) (request : Request) :
    Except Fault (Option Nat) × Session σ → Prop where
  | carriedOut (hvariant : s.variant = .blocking) :
      Executed s number call request (s.run (carryOut number call request))
  | awaited (hvariant : s.variant = .awaiting) {task : Nat}
      (found : s.tasks[task]? = some ⟨number, call, request, .called⟩) :
      Executed s number call request (s.run (await task))
  | operated {before : Session σ} (hvariant : before.variant.operates = true) {new : Value}
      (prepared : before.run (prepare number call new) = (.ok request, s)) :
      Executed s number call request (before.run (operate number call new))

/-- However a request is carried out, it comes to the same but for the list of tasks. -/
theorem Executed.eq {s : Session σ} {number : Nat} {call : Call} {request : Request}
    {outcome : Except Fault (Option Nat) × Session σ}
    (executed : Executed s number call request outcome) {h : Handle σ}
    (found : s.handles[number]? = some h) :
    ∃ tasks, outcome =
      let outcome := s.run (carryOutFrom s.variant.logSource number call request)
      (outcome.1.mapError (throughTransport s.variant), outcome.2.withTasks tasks) := by
  cases executed with
  | carriedOut hvariant =>
    refine ⟨(s.run (carryOut number call request)).2.tasks, ?_⟩
    have hsource : s.variant.logSource = .blockingTransport := by rw [hvariant]; rfl
    dsimp only
    rw [hsource, hvariant, mapError_throughTransport_blocking, ← carryOut_eq, withTasks_tasks]
  | @awaited hvariant task htask =>
    obtain ⟨tasks, hrun⟩ := run_runTask_called htask rfl found
    refine ⟨tasks, ?_⟩
    rw [withTasks_tasks] at hrun
    simp only [await, Session.task, handle, run_bind, run_get, run_entry, htask, found, hvariant]
    exact hrun
  | @operated before hvariant new prepared =>
    obtain ⟨tasks, hrun⟩ := run_operate hvariant number call new
    have hstill := keeps_prepare quiet_log number call new before request
    rw [prepared] at hrun hstill
    refine ⟨tasks, ?_⟩
    rw [hrun, hstill.variant_eq]

/-- Neither the transport nor the filters see anything of a change. -/
structure Unseen (s s' : Session σ) : Prop where
  visible : s'.visible = s.visible
  filterState : s'.filterState = s.filterState

instance : Lasting (Unseen : Session σ → Session σ → Prop) where
  refl _ := ⟨rfl, rfl⟩
  trans h h' := ⟨h'.visible.trans h.visible, h'.filterState.trans h.filterState⟩

theorem unseen_log (record : LogRecord) : Keeps Unseen (log record : Action σ Unit) := fun s => by
  refine ⟨?_, rfl⟩
  simp [visible, Event.isLogged]

theorem unseen_create (metadata uri token : Value) (config : Config) (filters : FilterSet σ) :
    Keeps Unseen (create metadata uri token config filters) := fun s => by
  rw [run_create]
  cases Metadata.ofValue metadata with
  | error fault => exact Lasting.refl s
  | ok m =>
    simp only [run_addHandle]
    cases filters.normalize with
    | error fault => exact Lasting.refl s
    | ok registry => exact ⟨rfl, rfl⟩

def filtered (s : Session σ) (names : List Text) (applied : Applied σ) : Session σ :=
  { s with filterState := applied.state, journal := s.journal ++ names.map .filtered }

theorem visible_filtered (s : Session σ) (names : List Text) (applied : Applied σ) :
    (s.filtered names applied).visible = s.visible ++ names.map .filtered := by
  have hall : (names.map Event.filtered).filter (fun event => !event.isLogged) =
      names.map .filtered := by
    rw [List.filter_eq_self]
    intro event hmem
    obtain ⟨name, -, rfl⟩ := List.mem_map.1 hmem
    rfl
  rw [visible, filtered, List.filter_append, hall]
  rfl

theorem run_applyFilters {s : Session σ} {number : Nat} {h : Handle σ}
    (found : s.handles[number]? = some h) {request : Request} {names : List Text}
    {applied : Applied σ} (happlied : h.applyFilters s.filterState request = (names, applied)) :
    s.run (applyFilters number request) =
      (match applied.fault with
        | none => .ok applied.request
        | some fault => .error fault, s.filtered names applied) := by
  rw [applyFilters, run_bind, runFilters, run_handle_bind found]
  simp only [run_bind, run_get, happlied, run_modify, run_pure]
  cases applied.fault <;> rfl

end Session

end ClientRegistration
