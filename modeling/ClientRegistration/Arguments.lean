import ClientRegistration.Fault
namespace ClientRegistration

structure Signature where
  callee : Text
  required : List Text
  optional : List Text

namespace Signature

def parameters (s : Signature) : List Text := s.required ++ s.optional

def receiver : Text := "self"

/-- The first named argument which is no parameter or is given by position, too. -/
def misnamed? (s : Signature) (byPosition : List Text) (named : Fields Text Value) :
    Option ArgumentFlaw :=
  named.findSome? fun (name, _) =>
    if (receiver :: byPosition).contains name then some (.repeated name)
    else if s.parameters.contains name then none
    else some (.unexpected name)

def flaw? (s : Signature) (positional : List Value) (named : Fields Text Value) :
    Option ArgumentFlaw :=
  let byPosition := s.parameters.take positional.length
  let missing := s.required.filter fun name => !byPosition.contains name && !named.has name
  match misnamed? s byPosition named with
  | some flaw => some flaw
  | none =>
    if s.parameters.length < positional.length then
      some (.tooMany (s.required.length + 1) (s.parameters.length + 1) (positional.length + 1))
    else if missing.isEmpty then none
    else some (.missing missing)

def bind (s : Signature) (positional : List Value) (named : Fields Text Value) :
    Except Fault (Fields Text Value) :=
  match s.flaw? positional named with
  | some flaw => .error (.arguments s.callee flaw)
  | none => .ok (s.parameters.zip positional ++ named)

end Signature

end ClientRegistration
