import ClientRegistration.Session.Awaiting
namespace ClientRegistration.Session

variable {σ : Type}

def callName : Call → Text
  | .read => "read"
  | .update => "update"
  | .delete => "delete"

def operate (number : Nat) (call : Call) (new : Value) : Action σ (Option Nat) := do
  match (← get).variant with
  | .awaiting => performAwaiting number call new
  | .blocking => perform number call new
  | variant => throw (.missingAttribute variant.className (callName call))

/-- A call of an operation, by the number of its task. A blocking client carries it out at once, so
that there is nothing left to await. -/
def call (number : Nat) (call : Call) (new : Value) : Action σ Nat := do
  match (← get).variant with
  | .awaiting => start number call new
  | .blocking =>
    let request ← prepare number call new
    discard (carryOut number call request)
    addTask ⟨number, call, request, .finished⟩
  | variant => throw (.missingAttribute variant.className (callName call))

/-- What the caller of a blocking client has in the place of a task. -/
def resultKind (variant : Variant) : Call → Text
  | .delete => Value.kind .null
  | _ => variant.className

/-- The result of a call, which only the task of an awaiting client gives later. -/
def awaitCall (number : Nat) : Action σ (Option Nat) := do
  let variant := (← get).variant
  if variant = .awaiting then await number
  else throw (.notAwaitable (resultKind variant (← task number).call))

def closeHandle (number : Nat) : Action σ Unit := do
  match (← get).variant with
  | .awaiting => closeAwaiting number
  | .blocking => close number
  | variant => throw (.missingAttribute variant.className "close")

def within (number : Nat) (action : Action σ Unit) : Action σ Unit := do
  match (← get).variant with
  | .awaiting => insideTask (try action finally closeAwaiting number)
  | .blocking => try action finally close number
  | variant => throw (.notEnterable variant.className)

end ClientRegistration.Session
