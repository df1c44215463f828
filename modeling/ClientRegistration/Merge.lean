import ClientRegistration.Metadata
import ClientRegistration.RegistrationError
namespace ClientRegistration

/-- Fields assigned by the server, which an update leaves out. -/
def privateFields : List Text := ["client_secret_expires_at", "client_id_issued_at"]

/-- Fields which keep their value for the life of a client. -/
def immutableFields : List Text := ["client_id", "client_secret"]

/-- Both documents in one: the fields of the current one come first, with the value of the new
one where it has one; private fields are left out. -/
def mergeFields {κ α : Type} [BEq κ] (isPrivate : κ → Bool) (current new : Fields κ α) :
    Fields κ α :=
  (current.filter fun (key, _) => !isPrivate key).map
      (fun (key, value) => (key, (new.get? key).getD value)) ++
    new.filter fun (key, _) => !isPrivate key && !current.has key

/-- The first immutable field for which a new value is given that differs from the current one.
Null is no value. -/
def changedField? (current new : Text → Option Value) : Option Text :=
  immutableFields.find? fun field =>
    match new field with
    | none | some .null => false
    | some value => !value.equals ((current field).getD .null)

def violationOf (field : Text) : Fault := .registration (.violation (.text field) .null)

namespace Metadata

def merge (current new : Metadata) : Fields Text Value :=
  mergeFields privateFields.contains current.fields new.fields

def checkImmutable (current new : Metadata) : Except Fault Unit :=
  match changedField? (fun f => current.fields.get? f) (fun f => new.fields.get? f) with
  | some field => .error (violationOf field)
  | none => .ok ()

end Metadata

namespace Value

def isPrivate (key : Value) : Bool := privateFields.any fun field => .text field == key

/-- Refuses a value of any kind which changes an immutable field. The current one is asked only for
fields the new one has. -/
def checkImmutable (current new : Value) : Except Fault Unit :=
  match new.entries?, current.entries? with
  | none, _ => .error (.missingAttribute new.kind "get")
  | some given, some held =>
    match changedField? (fun f => held.get? (.text f)) (fun f => given.get? (.text f)) with
    | some field => .error (violationOf field)
    | none => .ok ()
  | some given, none =>
    if immutableFields.all fun f => ((given.get? (.text f)).getD .null).isNull then .ok ()
    else .error (.missingAttribute current.kind "get")

/-- The merge of values of any kind. A new one that is no mapping is found out only after each
current field has been looked for in it. -/
def merge (current new : Value) : Except Fault (Fields Value Value) :=
  match current.entries?, new.entries? with
  | none, _ => .error (.missingAttribute current.kind "items")
  | some held, some given => .ok (mergeFields isPrivate held given)
  | some held, none => do
    for (key, _) in held do
      if !key.isPrivate then
        if ← new.contains key then discard (new.subscript key)
    throw (.missingAttribute new.kind "items")

end Value

end ClientRegistration
