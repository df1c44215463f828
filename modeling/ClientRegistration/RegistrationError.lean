import ClientRegistration.Arguments
import ClientRegistration.Value.Conversion
namespace ClientRegistration

namespace RegistrationErrorClass

def code : RegistrationErrorClass → Value
  | .general | .clientRegistration => .null
  | .closed => .text "client_closed"
  | .noManagementEndpoint => .text "no_management_endpoint"
  | .registrationUpdate => .text "registration_update_failed"
  | .immutableFieldViolation => .text "immutable_field"
  | .serverUnavailable => .text "server_unavailable"

def description : RegistrationErrorClass → Text
  | .closed => "Registered client is closed"
  | .noManagementEndpoint =>
    "Registered client can not make requests to the client configuration endpoint"
  | .serverUnavailable => "Registration server is not available"
  | _ => []

/-- What the constructor of a class takes; it is that of the class which defines it. -/
def signature : RegistrationErrorClass → Signature
  | .general => ⟨"DynRegError", [], ["error", "description"]⟩
  | .clientRegistration | .closed | .noManagementEndpoint | .serverUnavailable =>
    ⟨"ClientRegistrationError", [], ["description", "error"]⟩
  | .registrationUpdate => ⟨"RegistrationUpdateError", [], ["description", "status_code", "error"]⟩
  | .immutableFieldViolation => ⟨"ImmutableFieldViolationError", ["field"], ["description"]⟩

end RegistrationErrorClass

namespace RegistrationError

def replaced (default : Value) (given : Value) : Value :=
  if given.isNull then default else given

/-- An error of a class with a code, a description and a status, each the default if null. -/
def make (cls : RegistrationErrorClass) (code description status : Value) : RegistrationError :=
  let code := replaced cls.code code
  let description := replaced (.text cls.description) description
  let arguments : List Value := match cls with
    | .general => [.text (code.toText ++ ": " ++ description.toText)]
    | _ => [description]
  { cls, code, description, arguments,
    status := if cls.isA .registrationUpdate then some status else none
    field := none }

def described (cls : RegistrationErrorClass) (description : Value) : RegistrationError :=
  make cls .null description .null

def plain (cls : RegistrationErrorClass) : RegistrationError := described cls .null

def rejected (answer : Value) (status : Int) : RegistrationError :=
  make .registrationUpdate .null answer (.int status)

def fieldLabel (field : Value) : Value :=
  if field == .text "client_id" then .text "Client id"
  else if field == .text "client_secret" then .text "Client secret"
  else field

def violation (field : Value) (description : Value) : RegistrationError :=
  let description :=
    replaced (.text ((fieldLabel field).toText ++ " can not be modified")) description
  { make .immutableFieldViolation .null description .null with field := some field }

def construct (cls : RegistrationErrorClass) (positional : List Value) (named : Fields Text Value) :
    Except Fault RegistrationError := do
  let arguments ← cls.signature.bind positional named
  let argument (name : Text) : Value := (arguments.get? name).getD .null
  let e ← match cls with
    | .immutableFieldViolation => do
      if (argument "description").isNull then
        (argument "field").checkHashable
        discard (argument "field").shown
      pure (violation (argument "field") (argument "description"))
    | _ => pure (make cls (argument "error") (argument "description") (argument "status_code"))
  discard e.code.shown
  discard e.description.shown
  return e

end RegistrationError

end ClientRegistration
