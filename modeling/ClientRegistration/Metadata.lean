import ClientRegistration.Value.Conversion
/-!
Client metadata: a JSON object, held as the text it was read from and as its fields in order.

Fields may be nested to any depth: copying them with all their parts, like reading and writing their
text, has no limit on how deep it may go.
-/
namespace ClientRegistration

structure Metadata where
  source : Text
  fields : Fields Text Value

namespace Metadata

def registeredClaims : List Text :=
  ["client_id", "client_secret", "client_name", "redirect_uris", "post_logout_redirect_uris"]

def ofSource (source : Text) : Except Fault Metadata := do
  match ← Value.readText source with
  | .object members => return ⟨source, Value.fieldsOfMembers members⟩
  | _ => throw .metadataNoObject

def sourceOfEntries (entries : Fields Value Value) : Except Fault Text :=
  match (Value.mapping entries).toJson with
  | .ok document => .ok (document.write false)
  | .error .longInteger => .error (.serialization .longInteger)
  | .error flaw => .error (.unserializableMetadata flaw)

/-- The text which a value is read as: the text of other metadata, of a mapping, or its own. -/
def sourceOf : Value → Except Fault Text
  | .null => .ok "\x7b\x7d"
  | .metadata source _ => .ok source
  | .mapping entries => sourceOfEntries entries
  | v => do return (← v.toUnicode {}).getD []

/-- The metadata of a value, always read anew. -/
def ofValue (v : Value) : Except Fault Metadata := do ofSource (← sourceOf v)

def toValue (m : Metadata) : Value := .metadata m.source m.fields

def toMapping (m : Metadata) : Value := .ofFields m.fields

/-- A copy of the fields with all their parts. -/
def toDictionary (m : Metadata) : Except Fault Value :=
  if Value.fieldsHaveView m.fields then .error .uncopiable else .ok m.toMapping

/-- Metadata read anew from the same text. -/
def copy (m : Metadata) : Except Fault Metadata := ofSource m.source

def get? (m : Metadata) (key : Value) : Except Fault (Option Value) := do
  key.checkHashable
  match key with
  | .text name => return m.fields.get? name
  | _ => return none

def get (m : Metadata) (key : Value) : Except Fault Value := do
  match ← m.get? key with
  | some v => return v
  | none => throw (.missingKey key)

def operations : List Text := ["copy", "get", "items", "keys", "to_dict", "values"]

/-- An attribute: a registered claim, null if there is no such field, or a part of the object. An
operation is no value. -/
def attributeNamed (m : Metadata) : Value → Except Fault Value
  | .text name =>
    if registeredClaims.contains name then .ok ((m.fields.get? name).getD .null)
    else if name = "metadata_string" then .ok (.text m.source)
    else if name = "REGISTERED_CLAIMS" then .ok (.list (registeredClaims.map .text))
    else if operations.contains name then .error (.serialization (.value "method"))
    else .error (.missingAttribute m.toValue.kind name)
  | v => .error (.attributeNameKind v.kind)

def refuse {α : Type} (how : Modification) : Except Fault α := .error (.readOnlyMetadata how)

def append (m : Metadata) (key item : Value) : Except Fault Metadata := do
  match key, ← m.get key with
  | .text name, .list items =>
    return { m with fields := m.fields.put name (.list (items ++ [item])) }
  | _, v => throw (.missingAttribute v.kind "append")

end Metadata

end ClientRegistration
