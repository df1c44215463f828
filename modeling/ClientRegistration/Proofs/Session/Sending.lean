import ClientRegistration.Proofs.Session.Changes
namespace ClientRegistration.Session

variable {σ α β : Type}

theorem interrupts_throughTransport {variant : Variant} {cause : Fault}
    (h : cause.interrupts = false) :
    (throughTransport variant cause).interrupts = false := by
  unfold throughTransport throughTask
  split
  · split
    · split
      · rfl
      · exact h
    · exact h
  · exact h

theorem isConnectionFault_throughTransport (variant : Variant) (cause : Fault) :
    variant.isConnectionFault (throughTransport variant cause) =
      variant.isConnectionFault cause := by
  unfold throughTransport throughTask
  split
  · split
    · split
      · next f hends => simp [Variant.isConnectionFault, Fault.ofMessage, hends]
      · rfl
    · rfl
  · rfl

def sentRequest? : Event → Option Request
  | .sent request => some request
  | _ => none

def sent (s : Session σ) : List Request := s.journal.filterMap sentRequest?

/-- The loop of attempts as both kinds of client have it, but for where it logs. -/
def sendFrom (source : LogSource) (config : Config) (request : Request) :
    (retries : Nat) → Action σ Response
  | 0 => do
    match ← transmit request with
    | .ok response => return response
    | .error cause => giveUp cause
  | retries + 1 => do
    match ← transmit request with
    | .ok response => return response
    | .error cause =>
      if (← get).variant.isConnectionFault cause then
        log (.retrying source request.uri (config.retryCount - retries) config.retryCount)
        wait config.delay
        sendFrom source config request retries
      else giveUp cause

theorem send_eq (config : Config) (request : Request) (retries : Nat) :
    (send config request retries : Action σ Response) =
      sendFrom .blockingTransport config request retries := by
  induction retries with
  | zero => rfl
  | succ retries ih =>
    rw [sendFrom, ← ih]
    rfl

/-- Between two sessions lie so many attempts to send a request, with filters, waits and log
records. -/
structure Sending (request : Request) (count : Nat) (s s' : Session σ) : Prop where
  rest : s' = { s with
    attempts := s.attempts + count
    filterState := s'.filterState
    waits := s'.waits
    journal := s'.journal }
  sent : s'.sent = s.sent ++ List.replicate count request

namespace Sending

variable {request : Request} {count count' : Nat} {s s' s'' : Session σ}

theorem refl (request : Request) (s : Session σ) : Sending request 0 s s := ⟨rfl, by simp⟩

theorem trans (h : Sending request count s s') (h' : Sending request count' s' s'') :
    Sending request (count + count') s s'' := by
  constructor
  · rw [h'.rest, h.rest]
    simp [Nat.add_assoc]
  · rw [h'.sent, h.sent, List.append_assoc, List.replicate_append_replicate]

theorem logged (h : Sending request count s s') (record : LogRecord) :
    Sending request count s { s' with journal := s'.journal ++ [.logged record] } := by
  refine ⟨?_, ?_⟩
  · rw [h.rest]
  · rw [← h.sent]
    simp [Session.sent, sentRequest?]

theorem waited (h : Sending request count s s') (delay : Number) :
    Sending request count s
      { s' with waits := s'.waits + 1, journal := s'.journal ++ [.waited delay] } := by
  refine ⟨?_, ?_⟩
  · rw [h.rest]
  · rw [← h.sent]
    simp [Session.sent, sentRequest?]

theorem attempted (request : Request) (s : Session σ) :
    Sending request 1 s
      { s with attempts := s.attempts + 1, journal := s.journal ++ [.sent request] } :=
  ⟨rfl, by simp [Session.sent, sentRequest?]⟩

theorem refuses_eq (h : Sending request count s s') : s'.refuses = s.refuses := by
  rw [h.rest]
  rfl

theorem handles_eq (h : Sending request count s s') : s'.handles = s.handles := by
  rw [h.rest]

theorem script_eq (h : Sending request count s s') : s'.script = s.script := by
  rw [h.rest]

theorem variant_eq (h : Sending request count s s') : s'.variant = s.variant := by
  rw [h.rest]

theorem documents_eq (h : Sending request count s s') : s'.documents = s.documents := by
  rw [h.rest]

end Sending

def Still (s s' : Session σ) : Prop := ∀ request, Sending request 0 s s'

theorem Still.sent_eq {s s' : Session σ} (h : Still s s') : s'.sent = s.sent := by
  have hsent := (h ⟨.null, .null, [], []⟩).sent
  rwa [List.replicate_zero, List.append_nil] at hsent

instance : Lasting (Still : Session σ → Session σ → Prop) where
  refl s request := .refl request s
  trans h h' request := (h request).trans (h' request)

abbrev Quiet (action : Action σ α) : Prop := Keeps Still action

theorem quiet_log (record : LogRecord) : Quiet (log record : Action σ Unit) :=
  fun s request => (Sending.refl request s).logged record

theorem quiet_runFilters (number : Nat) (request : Request) :
    Quiet (runFilters number request : Action σ (Request × Option Fault)) := by
  refine (keeps_handle number).bind ?_
  intro h
  refine keeps_get.bind ?_
  intro s
  refine fun s' request' => ?_
  refine ⟨rfl, ?_⟩
  have hnames (names : List Text) : (names.map Event.filtered).filterMap sentRequest? = [] := by
    simp [List.filterMap_map, Function.comp_def, sentRequest?]
  change (s'.journal ++ List.map Event.filtered _).filterMap sentRequest? = _
  rw [List.filterMap_append, hnames]
  rfl

theorem quiet_applyFilters (number : Nat) (request : Request) :
    Quiet (applyFilters number request : Action σ Request) :=
  (quiet_runFilters number request).bind fun (_, fault) => by
    cases fault with
    | none => exact keeps_pure _
    | some fault => exact keeps_throw fault

theorem run_giveUp (s : Session σ) (cause : Fault) :
    s.run (giveUp cause : Action σ α) =
      if cause.interrupts then (.error cause, s)
      else (.error (.registration (.plain .serverUnavailable)),
        { s with journal := s.journal ++ [.logged (.unavailable cause)] }) := by
  rw [giveUp]
  split <;> rfl

theorem nextAnswer_eq_ok_iff {s : Session σ} {response : Response} :
    s.nextAnswer = .ok response ↔ s.script.attempt s.attempts = .ok response := by
  rw [nextAnswer]
  cases s.script.attempt s.attempts <;> simp [Except.mapError]

/-- The outcome of sending a request from a session: at least one attempt unless the transport
refuses all, and as answer that to the last attempt. -/
structure Sends (request : Request) (s : Session σ) (outcome : Except Fault Response × Session σ) :
    Prop where
  sending : ∃ count, Sending request count s outcome.2 ∧ (s.refuses = false → 0 < count)
  answer : ∀ response, outcome.1 = .ok response →
    s.script.attempt (outcome.2.attempts - 1) = .ok response

theorem sends_transmit (request : Request) (s : Session σ) :
    ∃ result s', s.run (transmit request) = (.ok result, s') ∧ Sends request s (result, s') := by
  rw [run_transmit]
  by_cases hrefuses : s.refuses = true
  · rw [if_pos hrefuses]
    refine ⟨.error refusal, s, rfl, ⟨0, .refl request s, fun h => ?_⟩, by simp⟩
    rw [hrefuses] at h
    cases h
  · rw [if_neg hrefuses]
    refine ⟨s.nextAnswer, _, rfl, ⟨1, .attempted request s, fun _ => Nat.one_pos⟩, ?_⟩
    exact fun response h => nextAnswer_eq_ok_iff.1 h

theorem Sends.giveUp {request : Request} {s s' : Session σ} {cause : Fault}
    (h : Sends request s (.error cause, s')) : Sends request s (s'.run (giveUp cause)) := by
  obtain ⟨count, hsending, hpos⟩ := h.sending
  rw [run_giveUp]
  split
  · exact ⟨⟨count, hsending, hpos⟩, by simp⟩
  · exact ⟨⟨count, hsending.logged _, hpos⟩, by simp⟩

theorem Sends.retry {request : Request} {s s' : Session σ} {cause : Fault}
    (h : Sends request s (.error cause, s')) (record : LogRecord) (delay : Number)
    {again : Action σ Response} (hagain : ∀ s, Sends request s (s.run again)) :
    Sends request s (s'.run (do log record; wait delay; again)) := by
  obtain ⟨count, hsending, hpos⟩ := h.sending
  have hwaited := (hsending.logged record).waited delay
  simp only [run_bind, run_log, run_wait]
  cases nextWait _ with
  | error fault => exact ⟨⟨count, hwaited, hpos⟩, by simp⟩
  | ok _ =>
    obtain ⟨⟨count', hsending', -⟩, hanswer⟩ := hagain _
    refine ⟨⟨count + count', hwaited.trans hsending', fun h => Nat.add_pos_left (hpos h) _⟩, ?_⟩
    intro response hresponse
    rw [← hwaited.script_eq]
    exact hanswer response hresponse

theorem sends_sendFrom (source : LogSource) (config : Config) (request : Request) (retries : Nat)
    (s : Session σ) : Sends request s (s.run (sendFrom source config request retries)) := by
  induction retries generalizing s with
  | zero =>
    obtain ⟨result, s', hrun, hsends⟩ := sends_transmit request s
    rw [sendFrom, run_bind, hrun]
    cases result with
    | ok response => exact hsends
    | error cause => exact hsends.giveUp
  | succ retries ih =>
    obtain ⟨result, s', hrun, hsends⟩ := sends_transmit request s
    rw [sendFrom, run_bind, hrun]
    cases result with
    | ok response => exact hsends
    | error cause =>
      simp only [run_bind, run_get]
      split
      · exact hsends.retry _ _ ih
      · exact hsends.giveUp

end ClientRegistration.Session
