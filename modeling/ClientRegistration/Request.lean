import ClientRegistration.Text.Uppercase
import ClientRegistration.Value.Conversion
namespace ClientRegistration

structure Request where
  method : Value
  uri : Value
  headers : Fields Value Value
  body : Bytes

namespace Request

def upperByte (b : UInt8) : UInt8 := if 0x61 ≤ b.toNat ∧ b.toNat ≤ 0x7A then b - 0x20 else b

def upper : Value → Except Fault Value
  | .text t => .ok (.text (Text.upper t))
  | .bytes .view _ => .error (.missingAttribute (Value.kind (.bytes .view [])) "upper")
  | .bytes kind content => .ok (.bytes kind (content.map upperByte))
  | v => .error (.missingAttribute v.kind "upper")

/-- The request of these parts; headers and body may be left out by anything that counts as
nothing. -/
def make (method uri headers body : Value) : Except Fault Request := do
  let method ← upper method
  let headers ← if headers.isTrue then headers.toEntries else .ok []
  let body := (← body.toBytes {}).getD []
  return { method, uri, headers, body }

def literal (r : Request) : Except Fault Text := do
  return "<RegistrationRequest " ++ (← r.method.shown) ++ " " ++ (← r.uri.shown) ++ ">"

def setHeader (r : Request) (name value : Value) : Except Fault Request := do
  return { r with headers := ← Value.store r.headers name value }

end Request

end ClientRegistration
