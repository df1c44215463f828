import ClientRegistration.Proofs.Session.Closing
import ClientRegistration.Proofs.Session.Parallel
import ClientRegistration.Proofs.Session.Passing
namespace ClientRegistration

/-- Two endings of an attempt which clients of these kinds can not tell apart. -/
inductive EndsAlike (variant variant' : Variant) :
    Except Fault Response → Except Fault Response → Prop where
  | answered (response : Response) : EndsAlike variant variant' (.ok response) (.ok response)
  | failed {cause cause' : Fault} (ordinary : cause.interrupts = false)
      (ordinary' : cause'.interrupts = false)
      (connection : variant'.isConnectionFault cause' = variant.isConnectionFault cause) :
      EndsAlike variant variant' (.error cause) (.error cause')

namespace EndsAlike

variable {variant variant' : Variant} {ending ending' : Except Fault Response} {cause : Fault}

theorem ordinary (alike : EndsAlike variant variant' ending ending') (h : ending = .error cause) :
    cause.interrupts = false := by
  cases alike with
  | answered => cases h
  | failed ordinary =>
    cases h
    exact ordinary

theorem ordinary' (alike : EndsAlike variant variant' ending ending')
    (h : ending' = .error cause) : cause.interrupts = false := by
  cases alike with
  | answered => cases h
  | failed _ ordinary' =>
    cases h
    exact ordinary'

end EndsAlike

inductive ReleasesAlike : Option Fault → Option Fault → Prop where
  | released : ReleasesAlike none none
  | failed {cause cause' : Fault} (ordinary : cause.interrupts = false)
      (ordinary' : cause'.interrupts = false) : ReleasesAlike (some cause) (some cause')

/-- Two scripts which do the same for clients of these kinds, and no wait of which fails. -/
structure Script.Alike (variant variant' : Variant) (script script' : Script) : Prop where
  attempt : ∀ count, EndsAlike variant variant' (script.attempt count) (script'.attempt count)
  release : ∀ count, ReleasesAlike (script.release count) (script'.release count)
  wait : ∀ count, script.wait count = none ∧ script'.wait count = none

namespace Script.Alike

variable {variant variant' : Variant} {script script' : Script}

theorem ordinary (alike : script.Alike variant variant' script') : script.Ordinary :=
  ⟨fun count => (alike.wait count).1, fun count _ h => (alike.attempt count).ordinary h⟩

theorem ordinary' (alike : script.Alike variant variant' script') : script'.Ordinary :=
  ⟨fun count => (alike.wait count).2, fun count _ h => (alike.attempt count).ordinary' h⟩

end Script.Alike

namespace Session

variable {σ α β : Type}

structure Alike (s s' : Session σ) : Prop where
  operates : s.variant.operates = true
  operates' : s'.variant.operates = true
  script : Script.Alike s.variant s'.variant s.script s'.script
  filterState : s'.filterState = s.filterState
  documents : s'.documents = s.documents
  handles : s'.handles = s.handles
  attempts : s'.attempts = s.attempts
  releases : s'.releases = s.releases
  waits : s'.waits = s.waits
  visible : s'.visible = s.visible

/-- Two actions give the same result in sessions that are alike, and leave them alike. -/
def Mirrors (action action' : Action σ α) : Prop :=
  ∀ ⦃s s'⦄, Alike s s' →
    (s'.run action').1 = (s.run action).1 ∧ Alike (s.run action).2 (s'.run action').2

theorem mirrors_pure (a : α) : Mirrors (pure a : Action σ α) (pure a) := follows_pure a

theorem Mirrors.bind {action action' : Action σ α} {next next' : α → Action σ β}
    (h : Mirrors action action') (hnext : ∀ a, Mirrors (next a) (next' a)) :
    Mirrors (action >>= next) (action' >>= next') :=
  Follows.bind h hnext

theorem Mirrors.map {action action' : Action σ α} (h : Mirrors action action') (f : α → β) :
    Mirrors (f <$> action) (f <$> action') :=
  Follows.map h f

theorem Alike.logged {s s' : Session σ} (alike : Alike s s') (records records' : List LogRecord) :
    Alike (s.logged records) (s'.logged records') :=
  { alike with visible := by rw [visible_logged, visible_logged, alike.visible] }

theorem Variant.map_transportArguments {variant : Variant} (h : variant.operates = true) :
    variant.transportArguments.map (fun _ => ()) = .ok () := by
  rcases Variant.operates_iff.1 h with rfl | rfl
  · rfl
  · rfl

theorem parallel_alike : Parallel (Alike : Session σ → Session σ → Prop) where
  handles alike := alike.handles
  documents alike := alike.documents
  filterState alike := alike.filterState
  transport alike :=
    (Variant.map_transportArguments alike.operates').trans
      (Variant.map_transportArguments alike.operates).symm
  held alike _ _ _ _ handles documents := { alike with handles, documents }
  filtered alike _ _ :=
    { alike with filterState := rfl, visible := visible_append alike.visible _ }
  logged alike records records' := alike.logged records records'

theorem mirrors_create (metadata uri token : Value) (config : Config) (filters : FilterSet σ) :
    Mirrors (create metadata uri token config filters)
      (create metadata uri token config filters) :=
  parallel_alike.create metadata uri token config filters

theorem mirrors_metadata (number : Nat) :
    Mirrors (metadata number : Action σ Nat) (metadata number) :=
  parallel_alike.metadata number

theorem Alike.withTasks {s s' : Session σ} (alike : Alike s s') (tasks tasks' : List Task) :
    Alike (s.withTasks tasks) (s'.withTasks tasks') :=
  { alike with }

section

variable {s s' : Session σ} (alike : Alike s s') (hrefuses : s'.refuses = s.refuses)
include alike hrefuses

theorem Alike.attemptAfter :
    EndsAlike s.variant s'.variant (s.attemptAfter 0) (s'.attemptAfter 0) := by
  rw [Session.attemptAfter, Session.attemptAfter, hrefuses, alike.attempts]
  cases s.refuses with
  | false => exact alike.script.attempt _
  | true =>
    refine .failed rfl rfl ?_
    rw [isConnectionFault_refusal, isConnectionFault_refusal]

theorem Alike.attempted (request : Request) : Alike (s.attempted request) (s'.attempted request) := by
  rw [Session.attempted, Session.attempted, hrefuses]
  split
  · exact alike
  · exact { alike with
      attempts := congrArg (· + 1) alike.attempts
      visible := visible_append alike.visible _ }

theorem Alike.retried (request : Request) (record record' : LogRecord) (delay : Number) :
    Alike (s.retried request record delay) (s'.retried request record' delay) := by
  have again := (alike.attempted hrefuses request).logged [record] [record']
  exact { again with
    waits := congrArg (· + 1) again.waits
    visible := visible_append again.visible [.waited delay] }

end

theorem alike_giveUp {s s' : Session σ} (alike : Alike s s') {cause cause' : Fault}
    (ordinary : cause.interrupts = false) (ordinary' : cause'.interrupts = false) :
    (s'.run (giveUp cause' : Action σ α)).1 = (s.run (giveUp cause : Action σ α)).1 ∧
      Alike (s.run (giveUp cause : Action σ α)).2 (s'.run (giveUp cause' : Action σ α)).2 := by
  rw [run_giveUp, run_giveUp, ordinary, ordinary']
  exact ⟨rfl, alike.logged [.unavailable cause] [.unavailable cause']⟩

theorem alike_sendFrom {s s' : Session σ} (alike : Alike s s') (hrefuses : s'.refuses = s.refuses)
    (source source' : LogSource) (config : Config) (request : Request) (retries : Nat) :
    (s'.run (sendFrom source' config request retries)).1 =
        (s.run (sendFrom source config request retries)).1 ∧
      Alike (s.run (sendFrom source config request retries)).2
        (s'.run (sendFrom source' config request retries)).2 := by
  induction retries generalizing s s' with
  | zero =>
    have hends := alike.attemptAfter hrefuses
    have attempted := alike.attempted hrefuses request
    simp only [sendFrom, run_bind, run_transmit_attempted]
    generalize s.attemptAfter 0 = ending at hends ⊢
    generalize s'.attemptAfter 0 = ending' at hends ⊢
    cases hends with
    | answered response => exact ⟨rfl, attempted⟩
    | failed ordinary ordinary' =>
      exact alike_giveUp attempted (interrupts_throughTransport ordinary)
        (interrupts_throughTransport ordinary')
  | succ retries ih =>
    have hends := alike.attemptAfter hrefuses
    have attempted := alike.attempted hrefuses request
    rw [sendFrom, sendFrom, run_bind, run_bind, run_transmit_attempted, run_transmit_attempted]
    generalize hending : s.attemptAfter 0 = ending at hends ⊢
    generalize s'.attemptAfter 0 = ending' at hends ⊢
    cases hends with
    | answered response => exact ⟨rfl, attempted⟩
    | @failed cause cause' ordinary ordinary' connection =>
      simp only [Except.mapError, run_get_bind, variant_attempted,
        isConnectionFault_throughTransport, connection]
      cases hagain : s.variant.isConnectionFault cause with
      | false =>
        exact alike_giveUp attempted (interrupts_throughTransport ordinary)
          (interrupts_throughTransport ordinary')
      | true =>
        have hopen : s.refuses = false := by
          apply @refuses_of_disconnects _ _ 0
          rw [disconnects, hending]
          exact hagain
        have hopen' : s'.refuses = false := hrefuses.trans hopen
        rw [if_pos rfl, if_pos rfl, run_retry alike.script.ordinary hopen,
          run_retry alike.script.ordinary' hopen']
        apply ih (alike.retried hrefuses request _ _ config.delay)
        rw [refuses_retried hopen, refuses_retried hopen']

theorem mirrors_outgoing (number : Nat) (call : Call) (new : Value) :
    Mirrors (outgoing number call new : Action σ Request) (outgoing number call new) :=
  (parallel_alike.prepare number call new).bind fun request =>
    parallel_alike.applyFilters number request

theorem quiet_outgoing (number : Nat) (call : Call) (new : Value) :
    Quiet (outgoing number call new : Action σ Request) :=
  (keeps_prepare quiet_log number call new).bind fun request => quiet_applyFilters number request

theorem alike_conclude {s s' : Session σ} (alike : Alike s s') (hrefuses : s'.refuses = s.refuses)
    (source source' : LogSource) (number : Nat) (call : Call) (request : Request) :
    (s'.run (conclude source' number call request)).1 =
        (s.run (conclude source number call request)).1 ∧
      Alike (s.run (conclude source number call request)).2
        (s'.run (conclude source' number call request)).2 := by
  cases found : s.handles[number]? with
  | none =>
    have found' : s'.handles[number]? = none := by rw [alike.handles, found]
    simp only [conclude, handle, run_bind, run_get, run_entry, found, found']
    exact ⟨trivial, alike⟩
  | some h =>
    have found' : s'.handles[number]? = some h := by rw [alike.handles, found]
    obtain ⟨hresult, hafter⟩ := alike_sendFrom alike hrefuses source source' h.config request
      h.config.retryCount
    rw [conclude, conclude, run_handle_bind found, run_handle_bind found', run_bind, run_bind]
    generalize s.run (sendFrom source h.config request h.config.retryCount) = sent
      at hresult hafter ⊢
    generalize s'.run (sendFrom source' h.config request h.config.retryCount) = sent'
      at hresult hafter ⊢
    obtain ⟨result, after⟩ := sent
    obtain ⟨result', after'⟩ := sent'
    cases hresult
    cases result with
    | error fault => exact ⟨rfl, hafter⟩
    | ok response => exact parallel_alike.interpret number call response hafter

/-- An operation comes to the same in sessions that are alike, but for what the tasks of one kind of
client do not let through. The transports have to agree on whether they refuse requests, unless
none gets as far. -/
theorem alike_operate {s s' : Session σ} (alike : Alike s s') (number : Nat) (call : Call)
    (new : Value)
    (hreaches : s'.refuses = s.refuses ∨
      ∃ fault, (s.run (outgoing number call new)).1 = .error fault) :
    ∃ result : Except Fault (Option Nat),
      (s.run (operate number call new)).1 = result.mapError (throughTransport s.variant) ∧
      (s'.run (operate number call new)).1 = result.mapError (throughTransport s'.variant) ∧
      Alike (s.run (operate number call new)).2 (s'.run (operate number call new)).2 := by
  obtain ⟨tasks, hrun⟩ := run_operate_outgoing alike.operates number call new
  obtain ⟨tasks', hrun'⟩ := run_operate_outgoing alike.operates' number call new
  obtain ⟨hresult, hafter⟩ := mirrors_outgoing number call new alike
  have hstill := quiet_outgoing number call new s ⟨.null, .null, [], []⟩
  have hstill' := quiet_outgoing number call new s' ⟨.null, .null, [], []⟩
  rw [hrun, hrun', run_bind, run_bind]
  generalize s.run (outgoing number call new) = outcome at hreaches hresult hafter hstill ⊢
  generalize s'.run (outgoing number call new) = outcome' at hresult hafter hstill' ⊢
  obtain ⟨result, after⟩ := outcome
  obtain ⟨result', after'⟩ := outcome'
  cases hresult
  cases result with
  | error fault => exact ⟨.error fault, rfl, rfl, hafter.withTasks tasks tasks'⟩
  | ok request =>
    have hrefuses : after'.refuses = after.refuses := by
      rw [hstill.refuses_eq, hstill'.refuses_eq]
      refine hreaches.resolve_right ?_
      rintro ⟨fault, hfault⟩
      cases hfault
    obtain ⟨hresult, hconcluded⟩ := alike_conclude hafter hrefuses s.variant.logSource
      s'.variant.logSource number call request
    refine ⟨_, rfl, ?_, hconcluded.withTasks tasks tasks'⟩
    rw [← hresult]

theorem alike_release {s s' : Session σ} (alike : Alike s s') :
    ∃ fault fault', (s.run release).1 = .ok fault ∧ (s'.run release).1 = .ok fault' ∧
      ReleasesAlike fault fault' ∧ Alike (s.run release).2 (s'.run release).2 := by
  have hreleases := alike.script.release s.releases
  have hnext : ReleasesAlike s.nextRelease s'.nextRelease := by
    rw [nextRelease, nextRelease, alike.releases]
    generalize s.script.release s.releases = fault at hreleases
    generalize s'.script.release s.releases = fault' at hreleases
    cases hreleases with
    | released => exact .released
    | failed ordinary ordinary' =>
      exact .failed (interrupts_throughTransport ordinary) (interrupts_throughTransport ordinary')
  rw [run_release, run_release]
  exact ⟨_, _, rfl, rfl, hnext, { alike with
    releases := congrArg (· + 1) alike.releases
    visible := visible_append alike.visible [.released] }⟩

theorem alike_closeFrom {s s' : Session σ} (alike : Alike s s') (source source' : LogSource)
    (number : Nat) :
    (s'.run (closeFrom source' number)).1 = (s.run (closeFrom source number)).1 ∧
      Alike (s.run (closeFrom source number)).2 (s'.run (closeFrom source' number)).2 := by
  cases found : s.handles[number]? with
  | none =>
    have found' : s'.handles[number]? = none := by rw [alike.handles, found]
    simp only [closeFrom, handle, run_bind, run_get, run_entry, found, found']
    exact ⟨trivial, alike⟩
  | some h =>
    have found' : s'.handles[number]? = some h := by rw [alike.handles, found]
    rw [closeFrom, closeFrom, run_handle_bind found, run_handle_bind found']
    split
    · exact ⟨rfl, alike⟩
    · obtain ⟨fault, fault', hrun, hrun', hreleases, hafter⟩ := alike_release alike
      rw [run_bind, run_bind]
      generalize s.run release = outcome at hrun hafter ⊢
      generalize s'.run release = outcome' at hrun' hafter ⊢
      obtain ⟨result, after⟩ := outcome
      obtain ⟨result', after'⟩ := outcome'
      cases hrun
      cases hrun'
      cases hreleases with
      | released => exact parallel_alike.markClosed number hafter
      | failed ordinary ordinary' =>
        simp only [ordinary, ordinary', Bool.false_eq_true, ↓reduceIte, run_bind, run_log]
        exact parallel_alike.markClosed number (hafter.logged [_] [_])

theorem mirrors_closeHandle (number : Nat) :
    Mirrors (closeHandle number : Action σ Unit) (closeHandle number) := by
  intro s s' alike
  have hclose {s : Session σ} (hvariant : s.variant.operates = true) :
      ∃ source, s.run (closeHandle number) = s.run (closeFrom source number) := by
    rw [closeHandle, run_get_bind]
    rcases Variant.operates_iff.1 hvariant with hs | hs
    · exact ⟨.blockingTransport, by rw [hs, ← close_eq]⟩
    · exact ⟨.awaitingTransport, by rw [hs, ← closeAwaiting_eq]⟩
  obtain ⟨source, hrun⟩ := hclose alike.operates
  obtain ⟨source', hrun'⟩ := hclose alike.operates'
  rw [hrun, hrun']
  exact alike_closeFrom alike source source' number

end Session

end ClientRegistration
