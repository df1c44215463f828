import ClientRegistration.Binary64.Shortest
import ClientRegistration.Value.Basic
namespace ClientRegistration.Value

def floatText : Binary64 → Text
  | .nan => "nan"
  | .infinity negative => if negative then "-inf" else "inf"
  | .finite negative exponent fraction => Binary64.textOfFields negative exponent fraction

def endpointText (e : Endpoint) : Text := "EndpointType." ++ e.label

def metadataText (source : Text) : Text := "<ClientMetadata " ++ source ++ ">"

mutual

/-- A value as it is written in messages: text in quotes, containers by their parts. -/
def literal : Value → Text
  | .null => "None"
  | .bool b => if b then "True" else "False"
  | .int n => Text.ofInt n
  | .float x => floatText x
  | .documentNaN => "nan"
  | .text t => Text.quoted t
  | .bytes .fixed content => Text.quotedBytes false content
  | .bytes .buffer content => "bytearray(" ++ Text.quotedBytes true content ++ ")"
  | .bytes .view _ => "<memory>"
  | .list items => "[" ++ literals items ++ "]"
  | .tuple [item] => "(" ++ literal item ++ ",)"
  | .tuple items => "(" ++ literals items ++ ")"
  | .set [] => "set()"
  | .set items => "\x7b" ++ literals items ++ "\x7d"
  | .mapping entries => "\x7b" ++ entryLiterals entries ++ "\x7d"
  | .metadata source _ => metadataText source
  | .endpoint e => "<" ++ endpointText e ++ ": " ++ Text.quoted e.name ++ ">"

def literals : List Value → Text
  | [] => []
  | [item] => literal item
  | item :: rest => literal item ++ ", " ++ literals rest

def entryLiterals : List (Value × Value) → Text
  | [] => []
  | [(key, item)] => literal key ++ ": " ++ literal item
  | (key, item) :: rest => literal key ++ ": " ++ literal item ++ ", " ++ entryLiterals rest

end

/-- The text of a value: text is its own, an endpoint is its constant, all else as in messages. -/
def toText : Value → Text
  | .text t => t
  | .endpoint e => endpointText e
  | v => literal v

def isLongInteger (n : Int) : Bool := Json.maxIntegerDigits < (Nat.toDigits 10 n.natAbs).length

mutual

/-- Whether an integer somewhere in a value has too many digits to be written. -/
def hasLongInteger : Value → Bool
  | .int n => isLongInteger n
  | .list items | .tuple items | .set items => haveLongInteger items
  | .mapping entries => entriesHaveLongInteger entries
  | _ => false

def haveLongInteger : List Value → Bool
  | [] => false
  | item :: rest => hasLongInteger item || haveLongInteger rest

def entriesHaveLongInteger : List (Value × Value) → Bool
  | [] => false
  | (key, item) :: rest =>
    hasLongInteger key || hasLongInteger item || entriesHaveLongInteger rest

end

end ClientRegistration.Value
