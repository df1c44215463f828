import ClientRegistration.Handle
import ClientRegistration.Value.Numeral
namespace ClientRegistration.Product

def name : Text := "dynreg"

def version : Text := "0.3.0"

def homepage : Text := "https://github.com/dynreg/dynreg"

def userAgent : Text := name ++ "/" ++ version ++ " (+" ++ homepage ++ ")"

def headerText? : Value → Option Text
  | .text t => some t
  | .bytes _ content => some (content.map fun b => CodePoint.ofNat b.toNat)
  | _ => none

/-- Headers given as a mapping or as pairs. A name can occur more than once, since the case of
letters does not count. -/
def headerFields (headers : Value) : List (Text × Text) :=
  let entries := match headers.entries?, headers with
    | some entries, _ => entries
    | none, .list items | none, .tuple items =>
      items.filterMap fun item => (Value.pair 0 item).toOption
    | none, _ => []
  entries.filterMap fun (name, v) => do return (← headerText? name, ← headerText? v)

def checkHeaders (headers : Value) : Except Fault Unit :=
  (headerFields headers).forM fun (name, v) => do
    let ascii : Conversion := { charset := "ascii" }
    discard (ascii.encode name)
    discard (ascii.encode v)

def joined : List Text → Text
  | [] => []
  | [v] => v
  | v :: rest => v ++ ", " ++ joined rest

/-- The agent of a transport with these headers, as far as it is one of this product. -/
def agentOfHeaders : Option Value → Option Text
  | none => some userAgent
  | some headers =>
    let agents := (headerFields headers).filter fun (name, _) =>
      Text.asciiLower name = "user-agent"
    let agent := joined (agents.map (·.2))
    let start : Text := name ++ "/"
    if start.isPrefixOf agent then some agent else none

end ClientRegistration.Product
