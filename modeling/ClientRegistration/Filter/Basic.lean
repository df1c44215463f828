import ClientRegistration.Request
namespace ClientRegistration

abbrev Context := Fields Value Value

/-- What a filter leaves: the state it keeps of its own, the request, the context, and why it
failed if it did. -/
structure Applied (σ : Type) where
  state : σ
  request : Request
  context : Context
  fault : Option Fault

structure RequestFilter (σ : Type) where
  name : Text
  declared : Value
  behaviour : σ → Request → Context → Applied σ

/-- Filters one after the other up to the first that fails, with the names of those called. -/
def applyInOrder {σ : Type} : List (RequestFilter σ) → σ → Request → Context →
    List Text × Applied σ
  | [], state, request, context => ([], ⟨state, request, context, none⟩)
  | filter :: rest, state, request, context =>
    let applied := filter.behaviour state request context
    if applied.fault.isSome then ([filter.name], applied)
    else
      let (names, last) := applyInOrder rest applied.state applied.request applied.context
      (filter.name :: names, last)

namespace Endpoint

/-- The endpoint which a value stands for: itself or its name. -/
def ofValue : Value → Except Fault Endpoint
  | .endpoint e => .ok e
  | v =>
    match v with
    | .text name =>
      match ofName? name with
      | some e => .ok e
      | none => .error (.unknownEndpoint v)
    | _ => .error (.unknownEndpoint v)

end Endpoint

namespace RequestFilter

variable {σ : Type}

def everyEndpoint : Value := .tuple [.endpoint .all]

/-- Whether one of the declared types is accepted. Types after that are not looked at. -/
def anyAccepted (accepts : Endpoint → Bool) : List Value → Except Fault Bool
  | [] => .ok false
  | v :: rest => do
    if accepts (← Endpoint.ofValue v) then return true
    else anyAccepted accepts rest

def isAccepted (accepts : Endpoint → Bool) (filter : RequestFilter σ) : Except Fault Bool := do
  anyAccepted accepts (← filter.declared.items)

end RequestFilter

end ClientRegistration
