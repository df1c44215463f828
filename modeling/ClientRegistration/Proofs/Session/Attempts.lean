import ClientRegistration.Proofs.Session.Operate
namespace ClientRegistration

def Event.isLogged : Event → Bool
  | .logged _ => true
  | _ => false

/-- Waits come to an end, and no attempt ends the program. -/
structure Script.Ordinary (script : Script) : Prop where
  wait : ∀ count, script.wait count = none
  attempt : ∀ count cause, script.attempt count = .error cause → cause.interrupts = false

namespace Session

variable {σ : Type}

/-- What the transport and the filters have seen of a session, in order. -/
def visible (s : Session σ) : List Event := s.journal.filter fun event => !event.isLogged

theorem visible_append {s s' : Session σ} (h : s'.visible = s.visible) (events : List Event) :
    (s'.journal ++ events).filter (fun event => !event.isLogged) =
      (s.journal ++ events).filter fun event => !event.isLogged := by
  rw [List.filter_append, List.filter_append]
  exact congrArg (· ++ _) h

theorem visible_logged (s : Session σ) (records : List LogRecord) :
    (s.logged records).visible = s.visible := by
  rw [visible, logged, List.filter_append]
  simp [visible, Event.isLogged]

def attemptAfter (s : Session σ) (count : Nat) : Except Fault Response :=
  if s.refuses then .error refusal else s.script.attempt (s.attempts + count)

def disconnects (s : Session σ) (count : Nat) : Bool :=
  match s.attemptAfter count with
  | .ok _ => false
  | .error cause => s.variant.isConnectionFault cause

def attemptEvents (s : Session σ) (request : Request) (delay : Number) (count : Nat) :
    List Event :=
  if s.refuses then [] else (List.replicate count (.sent request)).intersperse (.waited delay)

def unavailability : Fault := .registration (.plain .serverUnavailable)

def attempted (s : Session σ) (request : Request) : Session σ :=
  if s.refuses then s
  else { s with attempts := s.attempts + 1, journal := s.journal ++ [.sent request] }

theorem variant_attempted (s : Session σ) (request : Request) :
    (s.attempted request).variant = s.variant := by
  rw [attempted]
  split <;> rfl

theorem handles_attempted (s : Session σ) (request : Request) :
    (s.attempted request).handles = s.handles := by
  rw [attempted]
  split <;> rfl

theorem run_transmit_attempted (s : Session σ) (request : Request) :
    s.run (transmit request) =
      (.ok ((s.attemptAfter 0).mapError (throughTransport s.variant)), s.attempted request) := by
  rw [run_transmit, attemptAfter, attempted]
  cases s.refuses with
  | true => simp only [↓reduceIte, Except.mapError, throughTransport_refusal]
  | false => rfl

def retried (s : Session σ) (request : Request) (record : LogRecord) (delay : Number) :
    Session σ :=
  { s.attempted request with
    waits := (s.attempted request).waits + 1
    journal := (s.attempted request).journal ++ [.logged record] ++ [.waited delay] }

section

variable {s : Session σ}

theorem refuses_of_disconnects {count : Nat} (h : s.disconnects count = true) :
    s.refuses = false := by
  by_contra hrefuses
  rw [Bool.not_eq_false] at hrefuses
  rw [disconnects, attemptAfter, if_pos hrefuses] at h
  exact absurd (h.symm.trans (isConnectionFault_refusal s.variant)) Bool.noConfusion

theorem attempted_of_not_refuses (h : s.refuses = false) (request : Request) :
    s.attempted request =
      { s with attempts := s.attempts + 1, journal := s.journal ++ [.sent request] } := by
  rw [attempted, h]
  rfl

theorem refuses_retried (hrefuses : s.refuses = false) (request : Request) (record : LogRecord)
    (delay : Number) : (s.retried request record delay).refuses = false := by
  rw [retried, attempted_of_not_refuses hrefuses]
  exact hrefuses

theorem attemptEvents_one (s : Session σ) (request : Request) (delay : Number) :
    s.attemptEvents request delay 1 = if s.refuses then [] else [.sent request] := rfl

theorem visible_attempted (s : Session σ) (request : Request) (delay : Number) :
    (s.attempted request).visible = s.visible ++ s.attemptEvents request delay 1 := by
  rw [attempted, attemptEvents_one]
  split
  · rw [List.append_nil]
  · rw [visible, List.filter_append]
    rfl

end

theorem filterState_attempted (s : Session σ) (request : Request) :
    (s.attempted request).filterState = s.filterState := by
  rw [attempted]
  split <;> rfl

theorem run_retry {s : Session σ} (ordinary : s.script.Ordinary) (hrefuses : s.refuses = false)
    (request : Request) (record : LogRecord) (delay : Number) (again : Action σ Response) :
    (s.attempted request).run (do log record; wait delay; again) =
      (s.retried request record delay).run again := by
  rw [retried, attempted_of_not_refuses hrefuses]
  simp only [run_bind, run_log, run_wait, nextWait, ordinary.wait]

end Session

end ClientRegistration
