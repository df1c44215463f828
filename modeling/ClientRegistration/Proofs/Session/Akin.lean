import ClientRegistration.Proofs.Session.Closing
import ClientRegistration.Proofs.Session.Parallel
namespace ClientRegistration

/-- Two faults of a transport which a client of this kind treats the same: they are one, or neither
goes past its handlers and both or none tell that no connection was made. -/
inductive Fault.Akin (variant : Variant) : Fault → Fault → Prop where
  | same (cause : Fault) : Akin variant cause cause
  | ordinary {cause cause' : Fault} (interrupts : cause.interrupts = false)
      (interrupts' : cause'.interrupts = false)
      (connection : variant.isConnectionFault cause' = variant.isConnectionFault cause) :
      Akin variant cause cause'

namespace Fault.Akin

variable {variant : Variant} {cause cause' : Fault}

theorem isConnectionFault_eq (akin : Fault.Akin variant cause cause') :
    variant.isConnectionFault cause' = variant.isConnectionFault cause := by
  cases akin with
  | same => rfl
  | ordinary _ _ connection => exact connection

theorem throughTransport (akin : Fault.Akin variant cause cause') :
    Fault.Akin variant (Session.throughTransport variant cause)
      (Session.throughTransport variant cause') := by
  cases akin with
  | same => exact .same _
  | ordinary interrupts interrupts' connection =>
    apply Fault.Akin.ordinary (Session.interrupts_throughTransport interrupts)
      (Session.interrupts_throughTransport interrupts')
    rw [Session.isConnectionFault_throughTransport, Session.isConnectionFault_throughTransport,
      connection]

end Fault.Akin

inductive EndsAkin (variant : Variant) :
    Except Fault Response → Except Fault Response → Prop where
  | answered (response : Response) : EndsAkin variant (.ok response) (.ok response)
  | failed {cause cause' : Fault} (akin : Fault.Akin variant cause cause') :
      EndsAkin variant (.error cause) (.error cause')

theorem EndsAkin.throughTransport {variant : Variant} {ending ending' : Except Fault Response}
    (akin : EndsAkin variant ending ending') :
    EndsAkin variant (ending.mapError (Session.throughTransport variant))
      (ending'.mapError (Session.throughTransport variant)) := by
  cases akin with
  | answered response => exact .answered response
  | failed akin => exact .failed akin.throughTransport

/-- Two scripts with the same answers, waits and refusals, in which attempts and releases fail at
the same places with faults that are akin. -/
structure Script.Akin (variant : Variant) (script script' : Script) : Prop where
  attempt : ∀ count, EndsAkin variant (script.attempt count) (script'.attempt count)
  release : ∀ count,
    Option.Rel (Fault.Akin variant) (script.release count) (script'.release count)
  wait : ∀ count, script'.wait count = script.wait count
  refuses : script'.refuses = script.refuses

namespace Session

variable {σ α : Type} {variant : Variant}

/-- Two sessions with scripts that are akin, of which all else is the same but for the log. -/
structure Akin (variant : Variant) (s s' : Session σ) : Prop where
  variant_eq : s.variant = variant
  script : Script.Akin variant s.script s'.script
  rest : s' = { s with script := s'.script, journal := s'.journal }
  visible : s'.visible = s.visible

namespace Akin

variable {s s' : Session σ}

theorem exists_eq (akin : Akin variant s s') :
    ∃ script' journal', s' = { s with script := script', journal := journal' } :=
  ⟨_, _, akin.rest⟩

theorem variant_eq' (akin : Akin variant s s') : s'.variant = variant := by
  rw [akin.rest]
  exact akin.variant_eq

theorem refuses_eq (akin : Akin variant s s') : s'.refuses = s.refuses := by
  rw [refuses, refuses, akin.script.refuses, akin.rest]

theorem logged (akin : Akin variant s s') (records records' : List LogRecord) :
    Akin variant (s.logged records) (s'.logged records') := by
  have hvisible : (s'.logged records').visible = (s.logged records).visible := by
    rw [visible_logged, visible_logged, akin.visible]
  obtain ⟨script', journal', rfl⟩ := akin.exists_eq
  exact ⟨akin.variant_eq, akin.script, rfl, hvisible⟩

end Akin

theorem parallel_akin : Parallel (Akin variant : Session σ → Session σ → Prop) where
  handles akin := by rw [akin.rest]
  documents akin := by rw [akin.rest]
  filterState akin := by rw [akin.rest]
  transport akin := by rw [akin.rest]
  held akin := by
    rintro handles _ documents _ rfl rfl
    obtain ⟨script', journal', rfl⟩ := akin.exists_eq
    exact ⟨akin.variant_eq, akin.script, rfl, akin.visible⟩
  filtered akin filterState names := by
    have hvisible := visible_append akin.visible (names.map .filtered)
    obtain ⟨script', journal', rfl⟩ := akin.exists_eq
    exact ⟨akin.variant_eq, akin.script, rfl, hvisible⟩
  logged akin records records' := akin.logged records records'

/-- The transport stays hidden from an action of clients of this kind: its result tells nothing of
faults that are akin. -/
abbrev Discreet (variant : Variant) (action : Action σ α) : Prop :=
  Follows (Akin variant) action action

theorem discreet_request (number : Nat) : Discreet variant (request number : Action σ _) := by
  apply follows_get_bind
  intro s s' akin
  rw [akin.rest]
  exact follows_entry _ _

theorem discreet_task (number : Nat) : Discreet variant (task number : Action σ _) := by
  apply follows_get_bind
  intro s s' akin
  rw [akin.rest]
  exact follows_entry _ _

theorem discreet_setRequest (number : Nat) (request : Request) :
    Discreet variant (setRequest number request : Action σ _) := by
  intro s s' akin
  obtain ⟨script', journal', rfl⟩ := akin.exists_eq
  exact ⟨rfl, akin.variant_eq, akin.script, rfl, akin.visible⟩

theorem discreet_setStage (number : Nat) (t : Task) (stage : Stage) :
    Discreet variant (setStage number t stage : Action σ _) := by
  intro s s' akin
  obtain ⟨script', journal', rfl⟩ := akin.exists_eq
  exact ⟨rfl, akin.variant_eq, akin.script, rfl, akin.visible⟩

theorem discreet_addRequest (request : Request) :
    Discreet variant (addRequest request : Action σ _) := by
  intro s s' akin
  obtain ⟨script', journal', rfl⟩ := akin.exists_eq
  exact ⟨rfl, akin.variant_eq, akin.script, rfl, akin.visible⟩

theorem discreet_addTask (t : Task) : Discreet variant (addTask t : Action σ _) := by
  intro s s' akin
  obtain ⟨script', journal', rfl⟩ := akin.exists_eq
  exact ⟨rfl, akin.variant_eq, akin.script, rfl, akin.visible⟩

section

variable {s s' : Session σ} (akin : Akin variant s s')
include akin

theorem Akin.attemptAfter :
    EndsAkin variant ((s.attemptAfter 0).mapError (throughTransport s.variant))
      ((s'.attemptAfter 0).mapError (throughTransport s'.variant)) := by
  have hattempts : s'.attempts = s.attempts := by rw [akin.rest]
  rw [akin.variant_eq, akin.variant_eq', Session.attemptAfter, Session.attemptAfter,
    akin.refuses_eq, hattempts]
  apply EndsAkin.throughTransport
  cases s.refuses with
  | true => exact .failed (.same refusal)
  | false => exact akin.script.attempt s.attempts

theorem Akin.attempted (request : Request) :
    Akin variant (s.attempted request) (s'.attempted request) := by
  have hvisible := visible_append akin.visible [.sent request]
  rw [Session.attempted, Session.attempted, akin.refuses_eq]
  cases s.refuses with
  | true => exact akin
  | false =>
    obtain ⟨script', journal', rfl⟩ := akin.exists_eq
    exact ⟨akin.variant_eq, akin.script, rfl, hvisible⟩

end

/-- What follows an attempt may depend on its answer, and on a fault as far as those akin to it do
not differ. -/
theorem follows_transmit_bind {next next' : Except Fault Response → Action σ α}
    (answered : ∀ response, Follows (Akin variant) (next (.ok response)) (next' (.ok response)))
    (failed : ∀ cause cause', Fault.Akin variant cause cause' →
      Follows (Akin variant) (next (.error cause)) (next' (.error cause')))
    (request : Request) :
    Follows (Akin variant) (transmit request >>= next) (transmit request >>= next') := by
  intro s s' akin
  have hends := akin.attemptAfter
  have hafter := akin.attempted request
  rw [run_bind, run_bind, run_transmit_attempted, run_transmit_attempted]
  generalize (s.attemptAfter 0).mapError _ = ending at hends
  generalize (s'.attemptAfter 0).mapError _ = ending' at hends
  cases hends with
  | answered response => exact answered response hafter
  | failed akin => exact failed _ _ akin hafter

theorem follows_giveUp {cause cause' : Fault} (akin : Fault.Akin variant cause cause') :
    Follows (Akin variant) (giveUp cause : Action σ α) (giveUp cause') := by
  intro s s' related
  have hlogged := related.logged [.unavailable cause] [.unavailable cause']
  rw [run_giveUp, run_giveUp]
  cases akin with
  | ordinary interrupts interrupts' =>
    rw [interrupts, interrupts']
    exact ⟨rfl, hlogged⟩
  | same =>
    split
    · exact ⟨rfl, related⟩
    · exact ⟨rfl, hlogged⟩

theorem follows_isConnectionFault {cause cause' : Fault} (akin : Fault.Akin variant cause cause')
    {again again' otherwise otherwise' : Action σ α} (hagain : Follows (Akin variant) again again')
    (hotherwise : Follows (Akin variant) otherwise otherwise') :
    Follows (Akin variant)
      (do if (← get).variant.isConnectionFault cause then again else otherwise)
      (do if (← get).variant.isConnectionFault cause' then again' else otherwise') := by
  apply follows_get_bind
  intro s s' related
  rw [related.variant_eq, related.variant_eq', akin.isConnectionFault_eq]
  split
  · exact hagain
  · exact hotherwise

theorem discreet_wait (delay : Number) : Discreet variant (wait delay : Action σ Unit) := by
  intro s s' akin
  have hvisible := visible_append akin.visible [.waited delay]
  have hwait := akin.script.wait s.waits
  obtain ⟨script', journal', rfl⟩ := akin.exists_eq
  rw [run_wait, run_wait, nextWait, nextWait, hwait]
  exact ⟨rfl, akin.variant_eq, akin.script, rfl, hvisible⟩

theorem discreet_send (config : Config) (request : Request) (retries : Nat) :
    Discreet variant (send config request retries : Action σ Response) := by
  induction retries with
  | zero =>
    apply follows_transmit_bind
    · exact follows_pure
    · intro cause cause' akin
      exact follows_giveUp akin
  | succ retries ih =>
    apply follows_transmit_bind
    · exact follows_pure
    · intro cause cause' akin
      apply follows_isConnectionFault akin
      · apply (parallel_akin.log _ _).bind
        intro _
        apply (discreet_wait _).bind
        intro _
        exact ih
      · exact follows_giveUp akin

theorem discreet_carryOut (number : Nat) (call : Call) (request : Request) :
    Discreet variant (carryOut number call request : Action σ (Option Nat)) := by
  apply (parallel_akin.applyFilters number request).bind
  intro request
  apply (parallel_akin.handle number).bind
  intro h
  apply (discreet_send _ _ _).bind
  intro response
  exact parallel_akin.interpret number call response

theorem discreet_start (number : Nat) (call : Call) (new : Value) :
    Discreet variant (start number call new : Action σ Nat) := by
  apply (parallel_akin.prepare number call new).bind
  intro request
  exact discreet_addTask _

theorem discreet_attempt (t : Task) (retries : Nat) :
    Discreet variant (attempt t retries : Action σ Progress) := by
  apply follows_transmit_bind
  · intro response
    apply (parallel_akin.interpret _ _ response).bind
    intro result
    exact follows_pure _
  · intro cause cause' akin
    cases retries with
    | zero => exact follows_giveUp akin
    | succ retries =>
      apply follows_isConnectionFault akin
      · apply (parallel_akin.handle _).bind
        intro h
        apply (parallel_akin.log _ _).bind
        intro _
        exact follows_pure _
      · exact follows_giveUp akin

theorem discreet_advance (t : Task) : Discreet variant (advance t : Action σ Progress) := by
  rw [advance]
  split
  · apply (parallel_akin.applyFilters _ _).bind
    intro request
    apply (parallel_akin.handle _).bind
    intro h
    exact follows_pure _
  · exact discreet_attempt t _
  · apply (parallel_akin.handle _).bind
    intro h
    apply (discreet_wait _).bind
    intro _
    exact follows_pure _
  · exact follows_throw _

theorem discreet_stepTask (number : Nat) :
    Discreet variant (stepTask number : Action σ (Option (Option Nat))) := by
  apply (discreet_task number).bind
  intro t
  apply (discreet_setStage _ _ _).bind
  intro _
  apply (Follows.insideTask (discreet_advance t)).bind
  intro progress
  cases progress with
  | goesOn request stage => exact (discreet_setStage _ _ _).bind fun _ => follows_pure none
  | ends result => exact follows_pure (some result)

theorem discreet_runTask (number fuel : Nat) :
    Discreet variant (runTask number fuel : Action σ (Option Nat)) := by
  induction fuel with
  | zero => exact follows_throw _
  | succ fuel ih =>
    apply (discreet_stepTask number).bind
    intro result
    cases result with
    | some result => exact follows_pure result
    | none => exact ih

theorem discreet_await (number : Nat) :
    Discreet variant (await number : Action σ (Option Nat)) := by
  apply (discreet_task number).bind
  intro t
  apply (parallel_akin.handle _).bind
  intro h
  exact discreet_runTask _ _

theorem discreet_operate (number : Nat) (call : Call) (new : Value) :
    Discreet variant (operate number call new : Action σ (Option Nat)) := by
  apply follows_get_bind
  intro s s' akin
  rw [akin.variant_eq, akin.variant_eq']
  cases variant with
  | awaiting => exact (discreet_start number call new).bind fun task => discreet_await task
  | blocking =>
    apply (parallel_akin.prepare number call new).bind
    intro request
    exact discreet_carryOut number call request
  | abstract => exact follows_throw _
  | base => exact follows_throw _

theorem discreet_call (number : Nat) (call : Call) (new : Value) :
    Discreet variant (Session.call number call new : Action σ Nat) := by
  apply follows_get_bind
  intro s s' akin
  rw [akin.variant_eq, akin.variant_eq']
  cases variant with
  | awaiting => exact discreet_start number call new
  | blocking =>
    apply (parallel_akin.prepare number call new).bind
    intro request
    apply ((discreet_carryOut number call request).map _).bind
    intro _
    exact discreet_addTask _
  | abstract => exact follows_throw _
  | base => exact follows_throw _

theorem discreet_awaitCall (number : Nat) :
    Discreet variant (awaitCall number : Action σ (Option Nat)) := by
  apply follows_get_bind
  intro s s' akin
  rw [akin.variant_eq, akin.variant_eq']
  dsimp only
  split
  · exact discreet_await number
  · apply (discreet_task number).bind
    intro t
    exact follows_throw _

theorem discreet_applyToPrepared (number prepared : Nat) :
    Discreet variant (applyToPrepared number prepared : Action σ Request) := by
  apply (discreet_request prepared).bind
  intro request
  apply (parallel_akin.runFilters number request).bind
  rintro ⟨request, fault⟩
  apply (discreet_setRequest prepared request).bind
  intro _
  cases fault with
  | none => exact follows_pure request
  | some fault => exact follows_throw fault

section

variable {s s' : Session σ} (akin : Akin variant s s')
include akin

theorem Akin.nextRelease : Option.Rel (Fault.Akin variant) s.nextRelease s'.nextRelease := by
  have hrelease := akin.script.release s.releases
  have hreleases : s'.releases = s.releases := by rw [akin.rest]
  rw [Session.nextRelease, Session.nextRelease, akin.variant_eq, akin.variant_eq', hreleases]
  generalize s.script.release s.releases = fault at hrelease
  generalize s'.script.release s.releases = fault' at hrelease
  cases hrelease with
  | none => exact .none
  | some akin => exact .some akin.throughTransport

theorem Akin.afterRelease : Akin variant s.afterRelease s'.afterRelease := by
  have hvisible := visible_append akin.visible [.released]
  obtain ⟨script', journal', rfl⟩ := akin.exists_eq
  exact ⟨akin.variant_eq, akin.script, rfl, hvisible⟩

end

theorem follows_release_bind {next next' : Option Fault → Action σ α}
    (released : Follows (Akin variant) (next none) (next' none))
    (failed : ∀ cause cause', Fault.Akin variant cause cause' →
      Follows (Akin variant) (next (some cause)) (next' (some cause'))) :
    Follows (Akin variant) (release >>= next) (release >>= next') := by
  intro s s' akin
  have hnext := akin.nextRelease
  rw [run_bind_of_ok s.run_release, run_bind_of_ok s'.run_release]
  generalize s.nextRelease = fault at hnext
  generalize s'.nextRelease = fault' at hnext
  cases hnext with
  | none => exact released akin.afterRelease
  | some faults => exact failed _ _ faults akin.afterRelease

theorem discreet_closeFrom (source : LogSource) (number : Nat) :
    Discreet variant (closeFrom source number : Action σ Unit) := by
  apply (parallel_akin.handle number).bind
  intro h
  split
  · exact follows_pure ()
  · apply follows_release_bind
    · exact parallel_akin.markClosed number
    · intro cause cause' akin
      have hmark : Follows (Akin variant) (do log (.closeFailed source cause); markClosed number)
          (do log (.closeFailed source cause'); markClosed number : Action σ Unit) :=
        (parallel_akin.log _ _).bind fun _ => parallel_akin.markClosed number
      cases akin with
      | same =>
        dsimp only
        split
        · exact follows_throw cause
        · exact hmark
      | ordinary interrupts interrupts' =>
        dsimp only
        rw [interrupts, interrupts']
        exact hmark

theorem discreet_closeHandle (number : Nat) :
    Discreet variant (closeHandle number : Action σ Unit) := by
  apply follows_get_bind
  intro s s' akin
  rw [akin.variant_eq, akin.variant_eq']
  cases variant with
  | awaiting => exact discreet_closeFrom .awaitingTransport number
  | blocking => exact discreet_closeFrom .blockingTransport number
  | abstract => exact follows_throw _
  | base => exact follows_throw _

theorem discreet_within (number : Nat) {action : Action σ Unit} (h : Discreet variant action) :
    Discreet variant (within number action) := by
  apply follows_get_bind
  intro s s' akin
  rw [akin.variant_eq, akin.variant_eq']
  cases variant with
  | awaiting => exact (h.finally (discreet_closeFrom _ number)).insideTask
  | blocking => exact h.finally (discreet_closeFrom _ number)
  | abstract => exact follows_throw _
  | base => exact follows_throw _

end Session

end ClientRegistration
