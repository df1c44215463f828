import ClientRegistration.Proofs.Session.Operate
namespace ClientRegistration

def Event.isRelease : Event → Bool
  | .released => true
  | _ => false

/-- No release ends the program. -/
def Script.Releasing (script : Script) : Prop :=
  ∀ count cause, script.release count = some cause → cause.interrupts = false

namespace Session

variable {σ α : Type}

def released (s : Session σ) : Nat := s.journal.countP Event.isRelease

/-- Handles are only added, all of them open, and the transport is not released. -/
structure Grows (s s' : Session σ) : Prop where
  handles : ∃ added, s'.handles = s.handles ++ added ∧ ∀ h ∈ added, h.closed = false
  released : s'.released = s.released
  variant : s'.variant = s.variant
  script : s'.script = s.script

instance : Lasting (Grows : Session σ → Session σ → Prop) where
  refl s := ⟨⟨[], (List.append_nil _).symm, by simp⟩, rfl, rfl, rfl⟩
  trans h h' := by
    obtain ⟨added, hhandles, hopen⟩ := h.handles
    obtain ⟨added', hhandles', hopen'⟩ := h'.handles
    refine ⟨⟨added ++ added', ?_, ?_⟩, h'.released.trans h.released, h'.variant.trans h.variant,
      h'.script.trans h.script⟩
    · rw [hhandles', hhandles, List.append_assoc]
    · intro x hx
      exact (List.mem_append.1 hx).elim (hopen x) (hopen' x)

theorem grows_of_handles_eq {s s' : Session σ} (hhandles : s'.handles = s.handles)
    (hreleased : s'.released = s.released) (hvariant : s'.variant = s.variant)
    (hscript : s'.script = s.script) : Grows s s' :=
  ⟨⟨[], by rw [hhandles, List.append_nil], by simp⟩, hreleased, hvariant, hscript⟩

theorem Beside.grows {s s' : Session σ} (h : Beside s s') : Grows s s' := by
  obtain ⟨events, hjournal, hevents⟩ := h.journal
  refine grows_of_handles_eq h.handles ?_ h.variant h.script
  have hnone : events.countP Event.isRelease = 0 := by
    rw [List.countP_eq_zero]
    intro event hmem
    cases event with
    | released => exact absurd hmem hevents
    | _ => simp [Event.isRelease]
  rw [released, released, hjournal, List.countP_append, hnone, Nat.add_zero]

theorem upheld_grows : Upheld (Grows : Session σ → Session σ → Prop) where
  beside h := h.grows
  addDocument m s := grows_of_handles_eq rfl rfl rfl rfl
  create metadata uri token config filters s := by
    rw [run_create]
    cases Metadata.ofValue metadata with
    | error fault => exact Lasting.refl s
    | ok m =>
      simp only [run_addHandle]
      cases filters.normalize with
      | error fault => exact Lasting.refl s
      | ok registry => exact ⟨⟨[_], rfl, by simp⟩, rfl, rfl, rfl⟩

theorem interrupts_nextRelease {s : Session σ} (releasing : s.script.Releasing) {cause : Fault}
    (h : s.nextRelease = some cause) : cause.interrupts = false := by
  rw [nextRelease, Option.map_eq_some_iff] at h
  obtain ⟨raised, hraised, rfl⟩ := h
  exact interrupts_throughTransport (releasing _ _ hraised)

theorem run_closeFrom_of_closed {s : Session σ} {number : Nat} {h : Handle σ}
    (found : s.handles[number]? = some h) (hclosed : h.closed = true) (source : LogSource) :
    s.run (closeFrom source number) = (.ok (), s) := by
  rw [closeFrom, run_handle_bind found, if_pos hclosed]
  rfl

/-- Between two sessions lies the closing of a handle. -/
structure Closes (number : Nat) (h : Handle σ) (s s' : Session σ) : Prop where
  handles : s'.handles = s.handles.set number { h with closed := true }
  documents : s'.documents = s.documents
  released : s'.released = s.released + if h.closed then 0 else 1
  variant : s'.variant = s.variant
  script : s'.script = s.script

theorem run_closeFrom_of_open {s : Session σ} (releasing : s.script.Releasing) {number : Nat}
    {h : Handle σ} (found : s.handles[number]? = some h) (hopen : h.closed = false)
    (source : LogSource) :
    ∃ records : List LogRecord, s.run (closeFrom source number) =
      (.ok (), { s.afterRelease with
        journal := s.afterRelease.journal ++ records.map .logged
        handles := s.handles.set number { h with closed := true } }) := by
  rw [closeFrom, run_handle_bind found, hopen, if_neg Bool.false_ne_true, run_bind,
    run_release]
  cases hnext : s.nextRelease with
  | none =>
    refine ⟨[], (run_markClosed (s := s.afterRelease) found).trans ?_⟩
    rw [List.map_nil, List.append_nil]
    rfl
  | some cause =>
    refine ⟨[.closeFailed source cause], ?_⟩
    simp only [interrupts_nextRelease releasing hnext, Bool.false_eq_true, ↓reduceIte, run_bind,
      run_log]
    exact run_markClosed (s := { s.afterRelease with
      journal := s.afterRelease.journal ++ [.logged (.closeFailed source cause)] }) found

theorem closeFrom_closes {s : Session σ} (releasing : s.script.Releasing) {number : Nat}
    {h : Handle σ} (found : s.handles[number]? = some h) (source : LogSource) :
    ∃ s', s.run (closeFrom source number) = (.ok (), s') ∧ Closes number h s s' := by
  cases hclosed : h.closed with
  | true =>
    refine ⟨s, run_closeFrom_of_closed found hclosed source, ?_, rfl, ?_, rfl, rfl⟩
    · obtain ⟨hlt, rfl⟩ := List.getElem?_eq_some_iff.1 found
      rw [← hclosed, List.set_getElem_self]
    · rw [hclosed]
      rfl
  | false =>
    obtain ⟨records, hrun⟩ := run_closeFrom_of_open releasing found hclosed source
    refine ⟨_, hrun, rfl, rfl, ?_, rfl, rfl⟩
    have hlogs : (records.map Event.logged).countP Event.isRelease = 0 := by
      rw [List.countP_map, List.countP_eq_zero]
      simp [Event.isRelease]
    rw [hclosed, released, List.countP_append, hlogs, afterRelease, List.countP_append]
    rfl

theorem closeHandle_closes {s : Session σ} (hvariant : s.variant.operates = true)
    (releasing : s.script.Releasing) {number : Nat} {h : Handle σ}
    (found : s.handles[number]? = some h) :
    ∃ s', s.run (closeHandle number) = (.ok (), s') ∧ Closes number h s s' := by
  rw [closeHandle, run_get_bind]
  rcases Variant.operates_iff.1 hvariant with hs | hs
  · rw [hs]
    exact close_eq number ▸ closeFrom_closes releasing found .blockingTransport
  · rw [hs]
    exact closeAwaiting_eq number ▸ closeFrom_closes releasing found .awaitingTransport

theorem run_closeHandle_fails {s : Session σ} {number : Nat}
    (h : s.variant.operates = false ∨ s.handles[number]? = none) :
    (s.run (closeHandle number)).2 = s := by
  rw [closeHandle, run_get_bind]
  have hnone (found : s.handles[number]? = none) (source : LogSource) :
      (s.run (closeFrom source number)).2 = s := by
    simp only [closeFrom, handle, run_bind, run_get, run_entry, found]
  cases hs : s.variant with
  | abstract => rfl
  | base => rfl
  | blocking =>
    rw [hs] at h
    exact close_eq number ▸ hnone (h.resolve_left (by decide)) _
  | awaiting =>
    rw [hs] at h
    exact closeAwaiting_eq number ▸ hnone (h.resolve_left (by decide)) _

end Session

end ClientRegistration
