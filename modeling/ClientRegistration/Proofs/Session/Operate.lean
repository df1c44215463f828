import ClientRegistration.Proofs.Session.Made
import ClientRegistration.Proofs.Session.Reachable
import ClientRegistration.Proofs.Session.Requests
import ClientRegistration.Proofs.Session.Tasks
namespace ClientRegistration

def Variant.logSource : Variant → LogSource
  | .awaiting => .awaitingTransport
  | _ => .blockingTransport

def Variant.operates (variant : Variant) : Bool := variant = .blocking || variant = .awaiting

theorem Variant.operates_iff {variant : Variant} :
    variant.operates = true ↔ variant = .blocking ∨ variant = .awaiting := by
  rw [operates, Bool.or_eq_true, decide_eq_true_eq, decide_eq_true_eq]

namespace Session

variable {σ α : Type}

theorem mapError_throughTransport_blocking (result : Except Fault α) :
    result.mapError (throughTransport .blocking) = result := by
  cases result <;> rfl

/-- Both kinds of client do the same, but for the faults which a task does not let through. -/
theorem run_operate {s : Session σ} (hvariant : s.variant.operates = true) (number : Nat)
    (call : Call) (new : Value) :
    ∃ tasks, s.run (operate number call new) =
      match s.run (prepare number call new) with
      | (.error fault, after) => (.error fault, after)
      | (.ok request, after) =>
        let outcome := after.run (carryOutFrom s.variant.logSource number call request)
        (outcome.1.mapError (throughTransport s.variant), outcome.2.withTasks tasks) := by
  rw [operate, run_bind]
  simp only [run_get]
  cases hs : s.variant with
  | abstract => simp [hs, Variant.operates] at hvariant
  | base => simp [hs, Variant.operates] at hvariant
  | awaiting => exact run_performAwaiting s number call new
  | blocking =>
    simp only [perform, run_bind]
    rcases s.run (prepare number call new) with ⟨fault | request, after⟩
    · exact ⟨[], rfl⟩
    · refine ⟨(after.run (carryOut number call request)).2.tasks, ?_⟩
      simp only [mapError_throughTransport_blocking, Variant.logSource, ← carryOut_eq,
        withTasks_tasks]

theorem run_operate_of_not_operates {s : Session σ} (hvariant : s.variant.operates = false)
    (number : Nat) (call : Call) (new : Value) :
    ∃ fault, s.run (operate number call new) = (.error fault, s) := by
  rw [operate, run_bind]
  simp only [run_get]
  cases hs : s.variant with
  | abstract => exact ⟨_, rfl⟩
  | base => exact ⟨_, rfl⟩
  | blocking => simp [hs, Variant.operates] at hvariant
  | awaiting => simp [hs, Variant.operates] at hvariant

theorem operates_and_found_of_run_operate {s : Session σ} {number : Nat} {call : Call} {new : Value}
    {result : Option Nat} (h : (s.run (operate number call new)).1 = .ok result) :
    s.variant.operates = true ∧ ∃ x, s.handles[number]? = some x := by
  have hvariant : s.variant.operates = true := by
    by_contra hne
    obtain ⟨fault, hrun⟩ := run_operate_of_not_operates (Bool.not_eq_true _ ▸ hne) number call new
    rw [hrun] at h
    cases h
  obtain ⟨tasks, hrun⟩ := run_operate hvariant number call new
  refine ⟨hvariant, ?_⟩
  rw [hrun] at h
  have hexists := @exists_handle_of_prepare _ s number call new
  generalize s.run (prepare number call new) = prepared at h hexists
  obtain ⟨fault | request, after⟩ := prepared
  · cases h
  · exact hexists rfl

theorem run_applyFilters_of_isEmpty {s : Session σ} {number : Nat} {h : Handle σ}
    (found : s.handles[number]? = some h) (hempty : h.registry.isEmpty = true) (request : Request) :
    s.run (applyFilters number request) = (h.authorize request, s) := by
  rw [applyFilters, run_bind, runFilters, run_handle_bind found]
  cases hauthorize : h.authorize request <;>
    simp [run_bind, run_map, Except.map, Handle.applyFilters, hempty, hauthorize]

/-- What has been sent and how it will be answered stays. -/
structure Settled (s s' : Session σ) : Prop where
  sent : s'.sent = s.sent
  attempts : s'.attempts = s.attempts
  script : s'.script = s.script

instance : Lasting (Settled : Session σ → Session σ → Prop) where
  refl _ := ⟨rfl, rfl, rfl⟩
  trans h h' := ⟨h'.sent.trans h.sent, h'.attempts.trans h.attempts, h'.script.trans h.script⟩

theorem settles_log (record : LogRecord) : Keeps Settled (log record : Action σ Unit) := fun s => by
  refine ⟨?_, rfl, rfl⟩
  simp [sent, sentRequest?]

theorem settles_create (metadata uri token : Value) (config : Config) (filters : FilterSet σ) :
    Keeps Settled (create metadata uri token config filters) := fun s => by
  rw [run_create]
  cases Metadata.ofValue metadata with
  | error fault => exact Lasting.refl s
  | ok m =>
    simp only [run_addHandle]
    cases filters.normalize with
    | error fault => exact Lasting.refl s
    | ok registry => exact ⟨rfl, rfl, rfl⟩

def conclude (source : LogSource) (number : Nat) (call : Call) (request : Request) :
    Action σ (Option Nat) := do
  let config := (← handle number).config
  interpret number call (← sendFrom source config request config.retryCount)

theorem carryOutFrom_eq (source : LogSource) (number : Nat) (call : Call) (request : Request) :
    (carryOutFrom source number call request : Action σ (Option Nat)) = (do
      conclude source number call (← applyFilters number request)) := rfl

theorem sent_conclude {s : Session σ} {number : Nat} {h : Handle σ}
    (found : s.handles[number]? = some h) (source : LogSource) (call : Call) (request : Request) :
    ∃ count, (s.run (conclude source number call request)).2.sent =
      s.sent ++ List.replicate count request ∧ (s.refuses = false → 0 < count) := by
  obtain ⟨⟨count, hsending, hpos⟩, -⟩ :=
    sends_sendFrom source h.config request h.config.retryCount s
  rw [conclude, run_handle_bind found, run_bind]
  generalize s.run (sendFrom source h.config request h.config.retryCount) = outcome at hsending
  obtain ⟨fault | response, after⟩ := outcome
  · exact ⟨count, hsending.sent, hpos⟩
  · have hsettled := keeps_interpret settles_log settles_create number call response after
    exact ⟨count, hsettled.sent.trans hsending.sent, hpos⟩

/-- An operation of a handle has sent its request, again and again with the same token. -/
structure Issues (h : Handle σ) (request : Request) (s : Session σ)
    (outcome : Except Fault (Option Nat) × Session σ) : Prop where
  sent : ∃ count, outcome.2.sent = s.sent ++ List.replicate count (h.authorized request) ∧
    (0 < count → h.token.hasLongInteger = false) ∧
    (s.refuses = false → h.token.hasLongInteger = false → 0 < count)

theorem issues_carryOutFrom {s : Session σ} {number : Nat} {h : Handle σ}
    (found : s.handles[number]? = some h) (hempty : h.registry.isEmpty = true)
    (source : LogSource) (call : Call) (request : Request) :
    Issues h request s (s.run (carryOutFrom source number call request)) := by
  rw [carryOutFrom_eq, run_bind, run_applyFilters_of_isEmpty found hempty, h.authorize_eq]
  cases hlong : h.token.hasLongInteger with
  | true =>
    exact ⟨0, (List.append_nil _).symm, nofun, fun _ hshort => nomatch hlong.symm.trans hshort⟩
  | false =>
    obtain ⟨count, hsent, hpos⟩ := sent_conclude found source call (h.authorized request)
    exact ⟨count, hsent, fun _ => hlong, fun hrefuses _ => hpos hrefuses⟩

/-- A handle is new that is made of the answer to the last attempt, and has the settings of an
older one. -/
structure Makes (h : Handle σ) (call : Call) (s : Session σ) (number : Nat) (made : Registration)
    (after : Session σ) : Prop where
  answer : ∃ response, after.script.attempt (after.attempts - 1) = .ok response ∧
    h.answer call response = .ok (some made)
  number : number = s.handles.length
  handles : after.handles =
    s.handles ++ [⟨s.documents.length, made.uri, made.token, h.config, h.registry, false⟩]
  documents : after.documents = s.documents ++ [made.metadata]

theorem makes_of_run_carryOutFrom {s after : Session σ} {number new : Nat} {h : Handle σ}
    (found : s.handles[number]? = some h) (normal : h.registry.Normal)
    (htransport : s.variant ≠ .abstract) {source : LogSource} {call : Call} {request : Request}
    (hrun : s.run (carryOutFrom source number call request) = (.ok (some new), after)) :
    ∃ made, Makes h call s new made after := by
  have hquiet := quiet_applyFilters number request s request
  rw [carryOutFrom, run_bind] at hrun
  generalize s.run (applyFilters number request) = outcome at hquiet hrun
  obtain ⟨fault | filtered, before⟩ := outcome
  · cases hrun
  have found' : before.handles[number]? = some h := by rw [hquiet.handles_eq, found]
  obtain ⟨⟨count, hsending, -⟩, hlast⟩ :=
    sends_sendFrom source h.config filtered h.config.retryCount before
  simp only [run_handle_bind found', run_bind] at hrun
  generalize before.run (sendFrom source h.config filtered h.config.retryCount) = sent
    at hsending hlast hrun
  obtain ⟨fault | response, answered⟩ := sent
  · cases hrun
  have found'' : answered.handles[number]? = some h := by rw [hsending.handles_eq, found']
  have htransport' : answered.variant ≠ .abstract := by
    rwa [hsending.variant_eq, hquiet.variant_eq]
  obtain ⟨records, hinterpret⟩ := run_interpret found'' normal htransport' call response
  simp only [hinterpret] at hrun
  cases hanswer : h.answer call response with
  | error fault =>
    rw [hanswer] at hrun
    cases hrun
  | ok result =>
    rw [hanswer] at hrun
    cases result with
    | none => cases hrun
    | some made =>
      cases hrun
      have hhandles : answered.handles = s.handles := by
        rw [hsending.handles_eq, hquiet.handles_eq]
      have hdocuments : answered.documents = s.documents := by
        rw [hsending.documents_eq, hquiet.documents_eq]
      refine ⟨made, ⟨response, ?_, hanswer⟩, congrArg _ hhandles, ?_, ?_⟩
      · rw [← hlast response rfl, ← hsending.script_eq]
        rfl
      · rw [← hhandles, ← hdocuments]
        rfl
      · rw [← hdocuments]
        rfl

theorem mapError_eq_ok_iff {result : Except Fault α} {f : Fault → Fault} {a : α} :
    result.mapError f = .ok a ↔ result = .ok a := by
  cases result <;> simp [Except.mapError]

/-- An operation either fails before anything is sent or issues the request it has prepared. -/
theorem operate_fails_or_issues {s : Session σ} (hvariant : s.variant.operates = true)
    {number : Nat} {h : Handle σ} (found : s.handles[number]? = some h)
    (hempty : h.registry.isEmpty = true) (call : Call) (new : Value) :
    let outcome := s.run (operate number call new)
    (∃ fault, (s.run (prepare number call new)).1 = .error fault ∧ outcome.1 = .error fault ∧
      outcome.2.sent = s.sent) ∨
    ∃ request, (s.run (prepare number call new)).1 = .ok request ∧ Issues h request s outcome := by
  intro outcome
  obtain ⟨tasks, hrun⟩ := run_operate hvariant number call new
  have hstill := keeps_prepare quiet_log number call new s
  rw [show outcome = _ from hrun]
  generalize s.run (prepare number call new) = prepared at hstill
  obtain ⟨fault | request, after⟩ := prepared
  · exact .inl ⟨fault, rfl, rfl, hstill.sent_eq⟩
  · have found' : after.handles[number]? = some h := by rw [(hstill request).handles_eq, found]
    have hissues := issues_carryOutFrom found' hempty s.variant.logSource call request
    obtain ⟨count, hsent, hshort, hpos⟩ := hissues.sent
    rw [hstill.sent_eq] at hsent
    rw [(hstill request).refuses_eq] at hpos
    exact .inr ⟨request, rfl, count, hsent, hshort, hpos⟩

theorem makes_of_run_operate {s : Session σ} (sound : Sound s) {number made : Nat} {call : Call}
    {new : Value} (hmade : (s.run (operate number call new)).1 = .ok (some made)) :
    ∃ h given, s.handles[number]? = some h ∧
      Makes h call s made given (s.run (operate number call new)).2 := by
  obtain ⟨hvariant, h, found⟩ := operates_and_found_of_run_operate hmade
  obtain ⟨tasks, hrun⟩ := run_operate hvariant number call new
  have hstill := keeps_prepare quiet_log number call new s
  rw [hrun] at hmade ⊢
  generalize s.run (prepare number call new) = prepared at hmade hstill ⊢
  obtain ⟨fault | request, after⟩ := prepared
  · cases hmade
  have still := hstill request
  have found' : after.handles[number]? = some h := by rw [still.handles_eq, found]
  have htransport : after.variant ≠ .abstract := by
    rw [still.variant_eq]
    rintro hs
    rw [hs] at hvariant
    cases hvariant
  dsimp only at hmade ⊢
  obtain ⟨given, makes⟩ := makes_of_run_carryOutFrom found'
    (sound.registry h (List.mem_of_getElem? found)) htransport
    (Prod.ext (mapError_eq_ok_iff.1 hmade) rfl)
  refine ⟨h, given, found, makes.answer, ?_, ?_, ?_⟩
  · rw [makes.number, still.handles_eq]
  · rw [← still.handles_eq, ← still.documents_eq]
    exact makes.handles
  · rw [← still.documents_eq]
    exact makes.documents

theorem succeeds_of_run_operate {s : Session σ} (sound : Sound s) {number made : Nat} {call : Call}
    {new : Value} (hmade : (s.run (operate number call new)).1 = .ok (some made)) :
    let after := (s.run (operate number call new)).2
    ∃ x response entries h', s.handles[number]? = some x ∧
      after.script.attempt (after.attempts - 1) = .ok response ∧
      response.entries? = some entries ∧ made = s.handles.length ∧
      after.handles = s.handles ++ [h'] ∧
      h'.Succeeds x (entries.get? (.text uriField)) (entries.get? (.text tokenField)) := by
  obtain ⟨h, given, found, makes⟩ := makes_of_run_operate sound hmade
  obtain ⟨response, hlast, hanswer⟩ := makes.answer
  obtain ⟨-, registration, hregistration, rfl⟩ := Handle.answer_eq_some_iff.1 hanswer
  obtain ⟨entries, hentries, hof⟩ := Response.registration_eq_ok_iff.1 hregistration
  obtain ⟨m, -, heq⟩ := bind_eq_ok_iff.1 hof
  cases heq
  exact ⟨h, response, entries, _, found, hlast, hentries, makes.number, makes.handles, rfl,
    orElse_getD _ _, orElse_getD _ _, rfl, rfl⟩

end Session

end ClientRegistration
