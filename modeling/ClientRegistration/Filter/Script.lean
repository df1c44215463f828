import ClientRegistration.Filter.Basic
import ClientRegistration.Value.Buffer
namespace ClientRegistration

inductive FilterAction where
  | header (name value : Value)
  | dropHeader (name : Value)
  | setBody (content : Value)
  | appendBody (content : Value)
  | replaceBody (part replacement : Value)
  | rebindBody (content : Value)
  | bodySize (name : Value)
  | setMethod (method : Value)
  | setUri (uri : Value)
  | setContext (key value : Value)
  | countContext (key : Value)
  | contextHeader (name key : Value)
  | calls (name : Value)
  | fail (fault : Fault)

abbrev CallCounts := Fields Text Nat

/-- Bytes with every occurrence of a part replaced, from the left. `skip` bytes of an occurrence
are still to be passed over. -/
def replaceWithin (part replacement : Bytes) : (skip : Nat) → Bytes → Bytes
  | _, [] => []
  | skip + 1, _ :: rest => replaceWithin part replacement skip rest
  | 0, b :: rest =>
    if part.isPrefixOf (b :: rest) then
      replacement ++ replaceWithin part replacement (part.length - 1) rest
    else b :: replaceWithin part replacement 0 rest

def replaceBytes (part replacement content : Bytes) : Bytes :=
  if part.isEmpty then replacement ++ content.flatMap fun b => b :: replacement
  else replaceWithin part replacement 0 content

namespace Value

def plusOne (v : Value) : Except Fault Value :=
  match v.number? with
  | some (.int n) => .ok (.int (n + 1))
  | some (.float x) => .ok (.float x.succ)
  | none => .error (.noSum v.kind)

end Value

/-- What a filter works on. `ownBody` is its argument once that is no longer the request's body. -/
structure FilterWork where
  request : Request
  context : Context
  ownBody : Option Bytes

namespace FilterWork

def body (work : FilterWork) : Bytes := work.ownBody.getD work.request.body

def withBody (work : FilterWork) (body : Bytes) : FilterWork :=
  match work.ownBody with
  | some _ => { work with ownBody := some body }
  | none => { work with request.body := body }

def withHeader (work : FilterWork) (name value : Value) : Except Fault FilterWork := do
  return { work with request := ← work.request.setHeader name value }

def contextValue (work : FilterWork) (key : Value) : Except Fault Value := do
  match ← Value.find work.context key with
  | some v => return v
  | none => throw (.missingKey key)

def perform (count : Nat) (work : FilterWork) : FilterAction → Except Fault FilterWork
  | .header name value => work.withHeader name value
  | .dropHeader name => do
    match ← Value.find work.request.headers name with
    | some _ => return { work with request.headers := work.request.headers.erase name }
    | none => throw (.missingKey name)
  | .setBody content => do return work.withBody (← content.toContent)
  | .appendBody content => do return work.withBody (work.body ++ (← content.toAppended))
  | .replaceBody part replacement => do
    return work.withBody (replaceBytes (← part.toPart) (← replacement.toPart) work.body)
  | .rebindBody content => do
    return { work with request.body := ← content.toBuffer, ownBody := some work.body }
  | .bodySize name => work.withHeader name (.text (Text.ofNat work.body.length))
  | .setMethod method => .ok { work with request.method := method }
  | .setUri uri => .ok { work with request.uri := uri }
  | .setContext key value => do
    return { work with context := ← Value.store work.context key value }
  | .countContext key => do
    let count := (← Value.find work.context key).getD (.int 0)
    return { work with context := ← Value.store work.context key (← count.plusOne) }
  | .contextHeader name key => do work.withHeader name (.text (← (← work.contextValue key).shown))
  | .calls name => work.withHeader name (.text (Text.ofNat count))
  | .fail fault => .error fault

/-- What is left after the actions up to the first that fails, and why it failed. -/
def performAll (count : Nat) : List FilterAction → FilterWork → FilterWork × Option Fault
  | [], work => (work, none)
  | action :: rest, work =>
    match work.perform count action with
    | .ok work => performAll count rest work
    | .error fault => (work, some fault)

end FilterWork

namespace RequestFilter

def scripted (name : Text) (declared : Value) (actions : List FilterAction) :
    RequestFilter CallCounts where
  name
  declared
  behaviour counts request context :=
    let count := (counts.get? name).getD 0 + 1
    let (work, fault) := FilterWork.performAll count actions ⟨request, context, none⟩
    ⟨counts.put name count, work.request, work.context, fault⟩

end RequestFilter

end ClientRegistration
