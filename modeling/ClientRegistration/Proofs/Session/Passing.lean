import ClientRegistration.Proofs.Session.Operate
namespace ClientRegistration

/-- A result which a task lets through as it is. -/
def Passes {α : Type} (result : Except Fault α) : Prop :=
  result.mapError Session.throughTask = result

section

variable {α β : Type}

theorem Passes.bind {result : Except Fault α} {next : α → Except Fault β} (h : Passes result)
    (hnext : ∀ a, Passes (next a)) : Passes (result >>= next) := by
  cases result with
  | ok a => exact hnext a
  | error fault =>
    have hfault : Session.throughTask fault = fault := Except.error.inj h
    exact congrArg Except.error hfault

theorem Passes.throughTransport {result : Except Fault α} (h : Passes result) (variant : Variant) :
    result.mapError (Session.throughTransport variant) = result := by
  cases result with
  | ok a => rfl
  | error fault =>
    have hfault : Session.throughTask fault = fault := Except.error.inj h
    rw [Except.mapError, Session.throughTransport]
    split
    · rw [hfault]
    · rfl

theorem Passes.map {result : Except Fault α} (h : Passes result) (f : α → β) :
    Passes (f <$> result) := by
  rw [map_eq_pure_bind]
  exact h.bind fun a => rfl

end

namespace Value

theorem passes_shown (v : Value) : Passes v.shown := by
  rw [shown]
  split <;> rfl

theorem passes_toUnicode (v : Value) : Passes (v.toUnicode {}) := by
  cases v with
  | null => rfl
  | text t => rfl
  | bytes kind content =>
    apply Passes.map
    rw [Conversion.decode]
    cases ({} : Conversion).decoded content <;> rfl
  | _ => exact (passes_shown _).map some

theorem passes_readText (t : Text) : Passes (readText t) := by
  rw [readText, readTextWith]
  cases Json.read t <;> rfl

theorem passes_toJsonText (ascii : Bool) (v : Value) : Passes (v.toJsonText ascii) := by
  rw [toJsonText]
  cases v.toJson <;> rfl

end Value

namespace Metadata

theorem passes_ofSource (source : Text) : Passes (ofSource source) := by
  apply (Value.passes_readText source).bind
  intro document
  cases document <;> rfl

theorem passes_sourceOf (v : Value) : Passes (sourceOf v) := by
  cases v with
  | null => rfl
  | metadata source fields => rfl
  | mapping entries =>
    rw [sourceOf, sourceOfEntries]
    cases (Value.mapping entries).toJson with
    | ok document => rfl
    | error flaw => cases flaw <;> rfl
  | _ => exact (Value.passes_toUnicode _).bind fun _ => rfl

theorem passes_ofValue (v : Value) : Passes (ofValue v) :=
  (passes_sourceOf v).bind passes_ofSource

theorem passes_checkImmutable (current new : Metadata) : Passes (current.checkImmutable new) := by
  rw [checkImmutable]
  split <;> rfl

end Metadata

namespace Handle

variable {σ : Type} (h : Handle σ)

theorem passes_checkOpen : Passes h.checkOpen := by
  rw [checkOpen]
  split <;> rfl

theorem passes_checkRequestAllowed : Passes h.checkRequestAllowed := by
  apply h.passes_checkOpen.bind
  intro _
  split <;> rfl

theorem passes_updateRequest (merged : Fields Text Value) : Passes (h.updateRequest merged) := by
  apply (Value.passes_toJsonText _ _).bind
  intro t
  have hencode : Passes (({} : Conversion).encode t) := by
    rw [Conversion.encode]
    cases ({} : Conversion).encoded t <;> rfl
  exact hencode.bind fun body => rfl

end Handle

namespace Session

variable {σ α β : Type}

/-- An action whose results a task lets through as they are. -/
def Passing (action : Action σ α) : Prop := ∀ s : Session σ, Passes (s.run action).1

theorem passing_lift {result : Except Fault α} (h : Passes result) :
    Passing (lift result : Action σ α) := fun s => by
  rw [run_lift]
  exact h

theorem passing_log (record : LogRecord) : Passing (log record : Action σ Unit) := fun _ => rfl

theorem Passing.bind {action : Action σ α} {next : α → Action σ β} (h : Passing action)
    (hnext : ∀ a, Passing (next a)) : Passing (action >>= next) := fun s => by
  have hs := h s
  rw [run_bind]
  generalize s.run action = outcome at hs ⊢
  obtain ⟨fault | a, after⟩ := outcome
  · have hfault : throughTask fault = fault := Except.error.inj hs
    exact congrArg Except.error hfault
  · exact hnext a after

theorem Passing.map {action : Action σ α} (h : Passing action) (f : α → β) :
    Passing (f <$> action) := by
  rw [map_eq_pure_bind]
  exact h.bind fun a _ => rfl

theorem passing_entry (entries : List α) (number : Nat) :
    Passing (entry entries number : Action σ α) := fun s => by
  rw [run_entry]
  cases entries[number]? <;> rfl

theorem passing_handle (number : Nat) : Passing (handle number : Action σ (Handle σ)) :=
  fun s => passing_entry s.handles number s

theorem passing_document (number : Nat) : Passing (document number : Action σ Metadata) :=
  fun s => passing_entry s.documents number s

theorem passing_prepare (number : Nat) (call : Call) (new : Value) :
    Passing (prepare number call new : Action σ Request) := by
  cases call with
  | read =>
    apply (passing_handle number).bind
    intro h
    exact passing_lift (h.passes_checkRequestAllowed.bind fun _ => rfl)
  | delete =>
    apply (passing_handle number).bind
    intro h
    exact passing_lift (h.passes_checkRequestAllowed.bind fun _ => rfl)
  | update =>
    apply (passing_handle number).bind
    intro h
    apply (passing_lift h.passes_checkRequestAllowed).bind
    intro _
    apply (passing_lift (Metadata.passes_ofValue new)).bind
    intro given
    apply (passing_document h.document).bind
    intro current
    apply (passing_lift (current.passes_checkImmutable given)).bind
    intro _
    apply (passing_log _).bind
    intro _
    apply (passing_log _).bind
    intro _
    exact passing_lift (h.passes_updateRequest _)

theorem passing_metadata (number : Nat) : Passing (metadata number : Action σ Nat) := by
  apply (passing_handle number).bind
  intro h
  apply (passing_lift h.passes_checkOpen).bind
  intro _
  apply (passing_document _).bind
  intro m
  apply (passing_lift (Metadata.passes_ofSource m.source)).bind
  intro copied _
  rfl

theorem throughTask_of_interrupts {fault : Fault} (h : fault.interrupts = true) :
    throughTask fault = fault := by
  cases fault with
  | foreign f =>
    rw [throughTask]
    split
    · next hends =>
      rw [Fault.interrupts, hends] at h
      cases h
    · rfl
  | _ => rfl

theorem passing_closeHandle (number : Nat) : Passing (closeHandle number : Action σ Unit) := by
  have hmark : Passing (markClosed number : Action σ Unit) :=
    (passing_handle number).bind fun h _ => rfl
  have hrelease : Passing (release : Action σ (Option Fault)) := by
    intro s
    rw [run_release]
    rfl
  have hclose (source : LogSource) : Passing (closeFrom source number : Action σ Unit) := by
    apply (passing_handle number).bind
    intro h
    split
    · exact fun _ => rfl
    · apply hrelease.bind
      intro fault
      cases fault with
      | none => exact hmark
      | some cause =>
        dsimp only
        split
        · next hinterrupts =>
          exact fun _ => congrArg Except.error (throughTask_of_interrupts hinterrupts)
        · exact (passing_log _).bind fun _ => hmark
  intro s
  rw [closeHandle, run_get_bind]
  cases s.variant with
  | abstract => rfl
  | base => rfl
  | blocking => exact hclose .blockingTransport s
  | awaiting => exact hclose .awaitingTransport s

def outgoing (number : Nat) (call : Call) (new : Value) : Action σ Request := do
  applyFilters number (← prepare number call new)

/-- Both kinds of client do the same up to the faults which a task does not let through. -/
theorem run_operate_outgoing {s : Session σ} (hvariant : s.variant.operates = true) (number : Nat)
    (call : Call) (new : Value) :
    ∃ tasks, s.run (operate number call new) =
      let outcome := s.run (do conclude s.variant.logSource number call (← outgoing number call new))
      (outcome.1.mapError (throughTransport s.variant), outcome.2.withTasks tasks) := by
  obtain ⟨tasks, hrun⟩ := run_operate hvariant number call new
  have hpasses := passing_prepare number call new s
  rw [hrun, outgoing, bind_assoc, run_bind]
  generalize s.run (prepare number call new) = prepared at hpasses ⊢
  obtain ⟨fault | request, after⟩ := prepared
  · have hfault : throughTask fault = fault := Except.error.inj hpasses
    have hresult : Passes (.error fault : Except Fault (Option Nat)) := congrArg Except.error hfault
    refine ⟨after.tasks, Prod.ext ?_ rfl⟩
    exact (hresult.throughTransport s.variant).symm
  · exact ⟨tasks, rfl⟩

end Session

end ClientRegistration
