import ClientRegistration.Session.Handles
namespace ClientRegistration.Session

variable {σ : Type}

/-- A failure after which a request is not sent again. One that ends the program goes on as it
is. -/
def giveUp {α : Type} (cause : Fault) : Action σ α := do
  if cause.interrupts then throw cause else throw (← unavailable cause)

/-- The answer to a request, which is sent again up to `retries` times while no connection can be
made. -/
def send (config : Config) (request : Request) : (retries : Nat) → Action σ Response
  | 0 => do
    match ← transmit request with
    | .ok response => return response
    | .error cause => giveUp cause
  | retries + 1 => do
    match ← transmit request with
    | .ok response => return response
    | .error cause =>
      if (← get).variant.isConnectionFault cause then
        log (.retrying .blockingTransport request.uri (config.retryCount - retries)
          config.retryCount)
        wait config.delay
        send config request retries
      else giveUp cause

def carryOut (number : Nat) (call : Call) (request : Request) : Action σ (Option Nat) := do
  let request ← applyFilters number request
  let config := (← handle number).config
  interpret number call (← send config request config.retryCount)

def perform (number : Nat) (call : Call) (new : Value) : Action σ (Option Nat) := do
  carryOut number call (← prepare number call new)

/-- The transport is released and the handle closed. A release that fails is only logged, unless
it ends the program. -/
def close (number : Nat) : Action σ Unit := do
  let h ← handle number
  if h.closed then return
  else
    match ← release with
    | none => markClosed number
    | some cause =>
      if cause.interrupts then throw cause
      else
        log (.closeFailed .blockingTransport cause)
        markClosed number

end ClientRegistration.Session
