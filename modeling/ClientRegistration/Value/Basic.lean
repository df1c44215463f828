import ClientRegistration.Endpoint
import ClientRegistration.Json.Basic
import ClientRegistration.Text.Quoted
namespace ClientRegistration

inductive ByteKind where
  | fixed
  | buffer
  | view
deriving DecidableEq

/-- A value of any kind. `documentNaN` is the one not-a-number which all JSON documents share;
every other is a number of its own. -/
inductive Value where
  | null
  | bool (b : Bool)
  | int (n : Int)
  | float (x : Binary64)
  | documentNaN
  | text (t : Text)
  | bytes (kind : ByteKind) (content : Bytes)
  | list (items : List Value)
  | tuple (items : List Value)
  | set (items : List Value)
  | mapping (entries : List (Value × Value))
  | metadata (source : Text) (fields : List (Text × Value))
  | endpoint (e : Endpoint)

instance : Inhabited Value := ⟨.null⟩

namespace Value

mutual

def ofJson : Json → Value
  | .null => .null
  | .bool b => .bool b
  | .int n => .int n
  | .float .nan => .documentNaN
  | .float x => .float x
  | .text t => .text t
  | .array items => .list (ofItems items)
  | .object members => .mapping (ofMembers members)

def ofItems : List Json → List Value
  | [] => []
  | item :: rest => ofJson item :: ofItems rest

def ofMembers : List (Text × Json) → List (Value × Value)
  | [] => []
  | (key, item) :: rest => (.text key, ofJson item) :: ofMembers rest

end

def fieldsOfMembers (members : List (Text × Json)) : Fields Text Value :=
  members.map fun (key, item) => (key, ofJson item)

def ofFields (fields : Fields Text Value) : Value :=
  .mapping (fields.map fun (key, item) => (.text key, item))

def kind : Value → Text
  | .null => "NoneType"
  | .bool _ => "bool"
  | .int _ => "int"
  | .float _ | .documentNaN => "float"
  | .text _ => "str"
  | .bytes .fixed _ => "bytes"
  | .bytes .buffer _ => "bytearray"
  | .bytes .view _ => "memoryview"
  | .list _ => "list"
  | .tuple _ => "tuple"
  | .set _ => "set"
  | .mapping _ => "dict"
  | .metadata _ _ => "ClientMetadata"
  | .endpoint _ => "EndpointType"

/-- Whether a value counts as something: not null, false, zero or empty. -/
def isTrue : Value → Bool
  | .null => false
  | .bool b => b
  | .int n => n != 0
  | .float x => !x.isZero
  | .documentNaN => true
  | .text t => !t.isEmpty
  | .bytes _ content => !content.isEmpty
  | .list items | .tuple items | .set items => !items.isEmpty
  | .mapping entries => !entries.isEmpty
  | .metadata _ fields => !fields.isEmpty
  | .endpoint _ => true

mutual

/-- The kind of the first part of a value which can not be a key of a mapping. -/
def unhashable? : Value → Option Text
  | .tuple items => unhashableItem? items
  | .bytes .buffer _ => some "bytearray"
  | .list _ => some "list"
  | .set _ => some "set"
  | .mapping _ => some "dict"
  | .metadata _ _ => some "ClientMetadata"
  | _ => none

def unhashableItem? : List Value → Option Text
  | [] => none
  | item :: rest => (unhashable? item).or (unhashableItem? rest)

end

end Value

end ClientRegistration
