import ClientRegistration.Session.Action
namespace ClientRegistration.Session

variable {σ : Type}

/-- What a task lets through of a fault: the end of an iteration becomes a failure of the task. -/
def throughTask : Fault → Fault
  | .foreign f =>
    if f.kind = .endOfIteration then
      .ofMessage .ordinary "RuntimeError" "coroutine raised StopIteration"
    else .foreign f
  | fault => fault

/-- What the transport lets through of a fault; one whose answers are awaited works in tasks. -/
def throughTransport (variant : Variant) (fault : Fault) : Fault :=
  if variant = .awaiting then throughTask fault else fault

def refuses (s : Session σ) : Bool := s.script.refuses s.releases

def refusal : Fault :=
  .ofMessage .ordinary "RuntimeError" "Cannot send a request, as the client has been closed."

@[simp] theorem throughTransport_refusal (variant : Variant) :
    throughTransport variant refusal = refusal := by
  cases variant <;> rfl

@[simp] theorem isConnectionFault_refusal (variant : Variant) :
    variant.isConnectionFault refusal = false := by
  cases variant <;> rfl

def nextAnswer (s : Session σ) : Except Fault Response :=
  (s.script.attempt s.attempts).mapError (throughTransport s.variant)

def transmit (request : Request) : Action σ (Except Fault Response) := do
  let s ← get
  if s.refuses then return .error refusal
  else
    modify fun s => { s with attempts := s.attempts + 1, journal := s.journal ++ [.sent request] }
    return s.nextAnswer

theorem run_transmit (s : Session σ) (request : Request) :
    s.run (transmit request) =
      if s.refuses then (.ok (.error refusal), s)
      else
        (.ok s.nextAnswer,
          { s with attempts := s.attempts + 1, journal := s.journal ++ [.sent request] }) := by
  simp only [transmit, run_bind, run_get]
  split <;> simp [run_map, Except.map]

def nextWait (s : Session σ) : Except Fault Unit :=
  match s.script.wait s.waits with
  | none => .ok ()
  | some fault => .error (throughTransport s.variant fault)

def wait (delay : Number) : Action σ Unit := do
  let s ← get
  modify fun s => { s with waits := s.waits + 1, journal := s.journal ++ [.waited delay] }
  lift s.nextWait

@[simp] theorem run_wait (s : Session σ) (delay : Number) :
    s.run (wait delay) =
      (s.nextWait,
        { s with waits := s.waits + 1, journal := s.journal ++ [.waited delay] }) := by
  simp [wait, run_bind]

def nextRelease (s : Session σ) : Option Fault :=
  (s.script.release s.releases).map (throughTransport s.variant)

def afterRelease (s : Session σ) : Session σ :=
  { s with releases := s.releases + 1, journal := s.journal ++ [.released] }

def release : Action σ (Option Fault) := do
  let s ← get
  modify afterRelease
  return s.nextRelease

theorem run_release (s : Session σ) : s.run release = (.ok s.nextRelease, s.afterRelease) := by
  simp [release, afterRelease, run_bind, run_map, Except.map]

end ClientRegistration.Session
