import ClientRegistration.Json.Writer
import ClientRegistration.Value.Literal
import ClientRegistration.Fault
namespace ClientRegistration.Value

def memberKey : Value → Except SerializationFlaw Text
  | .null => .ok "null"
  | .bool b => .ok (if b then Text.ofString "true" else Text.ofString "false")
  | .int n => if isLongInteger n then .error .longInteger else .ok (Text.ofInt n)
  | .float x => .ok (Json.writeFloat x)
  | .documentNaN => .ok (Json.writeFloat .nan)
  | .text t => .ok t
  | v => .error (.key v.kind)

mutual

def toJson : Value → Except SerializationFlaw Json
  | .null => .ok .null
  | .bool b => .ok (.bool b)
  | .int n => if isLongInteger n then .error .longInteger else .ok (.int n)
  | .float x => .ok (.float x)
  | .documentNaN => .ok (.float .nan)
  | .text t => .ok (.text t)
  | .list items | .tuple items => Json.array <$> itemsToJson items
  | .mapping entries => Json.object <$> entriesToJson entries
  | v => .error (.value v.kind)

def itemsToJson : List Value → Except SerializationFlaw (List Json)
  | [] => .ok []
  | item :: rest => do return (← toJson item) :: (← itemsToJson rest)

/-- The members of a mapping's document: each key comes before its value. -/
def entriesToJson : List (Value × Value) → Except SerializationFlaw (List (Text × Json))
  | [] => .ok []
  | (key, item) :: rest => do
    let key ← memberKey key
    return (key, ← toJson item) :: (← entriesToJson rest)

end

def toJsonText (ascii : Bool) (v : Value) : Except Fault Text :=
  match v.toJson with
  | .ok document => .ok (document.write ascii)
  | .error flaw => .error (.serialization flaw)

end ClientRegistration.Value
