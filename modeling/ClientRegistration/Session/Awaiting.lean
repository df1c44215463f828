import ClientRegistration.Session.Blocking
namespace ClientRegistration

def Stage.stepsLeft (retryCount : Nat) : Stage → Nat
  | .called => 2 * retryCount + 2
  | .attempting retries => 2 * retries + 1
  | .waiting retries => 2 * retries + 2
  | .finished => 0

namespace Session

variable {σ : Type}

/-- What a step of a task comes to: the next stage with the request as it is then, or the
result. -/
inductive Progress where
  | goesOn (request : Request) (stage : Stage)
  | ends (result : Option Nat)

def start (number : Nat) (call : Call) (new : Value) : Action σ Nat := do
  addTask ⟨number, call, ← prepare number call new, .called⟩

def attempt (t : Task) (retries : Nat) : Action σ Progress := do
  match ← transmit t.request with
  | .ok response => return .ends (← interpret t.handle t.call response)
  | .error cause =>
    match retries with
    | retries + 1 =>
      if (← get).variant.isConnectionFault cause then
        let config := (← handle t.handle).config
        log (.retrying .awaitingTransport t.request.uri (config.retryCount - retries)
          config.retryCount)
        return .goesOn t.request (.waiting retries)
      else giveUp cause
    | 0 => giveUp cause

def advance (t : Task) : Action σ Progress :=
  match t.stage with
  | .called => do
    let request ← applyFilters t.handle t.request
    return .goesOn request (.attempting (← handle t.handle).config.retryCount)
  | .attempting retries => attempt t retries
  | .waiting retries => do
    wait (← handle t.handle).config.delay
    return .goesOn t.request (.attempting retries)
  | .finished => throw .reusedTask

def insideTask {α : Type} (action : Action σ α) : Action σ α :=
  tryCatch action fun fault => throw (throughTask fault)

/-- One step of a task: its result, if that was the last one. A step that fails is the last. -/
def stepTask (number : Nat) : Action σ (Option (Option Nat)) := do
  let t ← task number
  setStage number t .finished
  match ← insideTask (advance t) with
  | .goesOn request stage =>
    setStage number { t with request } stage
    return none
  | .ends result => return some result

def runTask (number : Nat) : (fuel : Nat) → Action σ (Option Nat)
  | 0 => throw .reusedTask
  | fuel + 1 => do
    match ← stepTask number with
    | some result => return result
    | none => runTask number fuel

/-- The result of a task. A task which has been awaited has none. -/
def await (number : Nat) : Action σ (Option Nat) := do
  let t ← task number
  let retryCount := (← handle t.handle).config.retryCount
  runTask number (t.stage.stepsLeft retryCount)

/-- A read, update or delete which is awaited as soon as it is called. -/
def performAwaiting (number : Nat) (call : Call) (new : Value) : Action σ (Option Nat) := do
  await (← start number call new)

def closeAwaiting (number : Nat) : Action σ Unit := do
  let h ← handle number
  if h.closed then return
  else
    match ← release with
    | none => markClosed number
    | some cause =>
      if cause.interrupts then throw cause
      else
        log (.closeFailed .awaitingTransport cause)
        markClosed number

end Session

end ClientRegistration
