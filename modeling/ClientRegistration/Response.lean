import ClientRegistration.Metadata
import ClientRegistration.RegistrationError
namespace ClientRegistration

/-- An answer of the server. `document` is what its body reads as, or the failure to read it. -/
structure Response where
  status : Int
  text : Value
  document : Except Fault Value

namespace Response

def ofText (status : Int) (text : Value) : Response where
  status
  text
  document := Value.ofJson <$> Value.readDocument text

def succeeded (r : Response) : Bool := 200 ≤ r.status && r.status < 300

def rejection (r : Response) : Fault := .registration (.rejected r.text r.status)

end Response

def uriField : Text := "registration_client_uri"

def tokenField : Text := "registration_access_token"

/-- What a registration response says: the metadata of the client, and URI and token of its
configuration endpoint, null if it does not give them. -/
structure Registration where
  metadata : Metadata
  uri : Value
  token : Value

namespace Registration

def ofEntries (entries : Fields Value Value) : Except Fault Registration := do
  let rest := (entries.erase (.text uriField)).erase (.text tokenField)
  return {
    metadata := ← Metadata.ofValue (.mapping rest)
    uri := (entries.get? (.text uriField)).getD .null
    token := (entries.get? (.text tokenField)).getD .null }

def ofValue (v : Value) : Except Fault Registration := do ofEntries (← v.toEntries)

end Registration

end ClientRegistration
