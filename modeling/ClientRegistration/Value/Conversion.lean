import ClientRegistration.Json.Encoding
import ClientRegistration.Value.Access
import ClientRegistration.Value.Document
namespace ClientRegistration

structure Conversion where
  charset : Text := "utf-8"
  leniency : Text := "strict"

namespace Conversion

def encoded (c : Conversion) (t : Text) : Except ConversionFlaw Bytes := do
  Charset.checkName c.charset
  Charset.checkName c.leniency
  (← Charset.named c.charset).encode (.ofName c.leniency) t

/-- The text of bytes; no bytes are no text in any charset. -/
def decoded (c : Conversion) (content : Bytes) : Except ConversionFlaw Text := do
  Charset.checkName c.charset
  Charset.checkName c.leniency
  if content.isEmpty then return []
  else (← Charset.named c.charset).decode (.ofName c.leniency) content

def encode (c : Conversion) (t : Text) : Except Fault Bytes :=
  match c.encoded t with
  | .ok content => .ok content
  | .error flaw => .error (.conversion flaw)

def decode (c : Conversion) (content : Bytes) : Except Fault Text :=
  match c.decoded content with
  | .ok t => .ok t
  | .error flaw => .error (.conversion flaw)

end Conversion

namespace Value

/-- The text of a value, unless an integer in it is too long. -/
def shown (v : Value) : Except Fault Text :=
  if v.hasLongInteger then .error (.serialization .longInteger) else .ok v.toText

def shownLiteral (v : Value) : Except Fault Text :=
  if v.hasLongInteger then .error (.serialization .longInteger) else .ok v.literal

/-- One byte, given as an integer. The fault of one out of range is that of where it goes to. -/
def byte (outOfRange : Fault) (v : Value) : Except Fault UInt8 :=
  match v.integer? with
  | some n => if 0 ≤ n ∧ n < 256 then .ok (UInt8.ofNat n.toNat) else .error outOfRange
  | none => .error (.notAnInteger v.kind)

/-- The bytes of a value: text and numbers are encoded, containers give their items as bytes. -/
def toBytes (c : Conversion) : Value → Except Fault (Option Bytes)
  | .null => .ok none
  | .bytes _ content => .ok (some content)
  | .text t => some <$> c.encode t
  | .endpoint e => .error (.noByteSequence (kind (.endpoint e)) .fixed)
  | v =>
    match v.number? with
    | some _ => do return some (← c.encode (← v.shown))
    | none => do return some (← (← v.items).mapM (byte .byteRange))

def toUnicode (c : Conversion) : Value → Except Fault (Option Text)
  | .null => .ok none
  | .text t => .ok (some t)
  | .bytes _ content => some <$> c.decode content
  | v => some <$> v.shown

def readTextWith (read : Text → Except Json.Refusal Json) (t : Text) : Except Fault Json :=
  match read t with
  | .ok document => .ok document
  | .error refusal => .error (.refusedText t refusal)

def readText (t : Text) : Except Fault Json := readTextWith Json.read t

def documentText (content : Bytes) : Except Fault Text :=
  match (Json.Encoded.ofBytes content).text with
  | .ok t => .ok t
  | .error flaw => .error (.conversion flaw)

def readDocument : Value → Except Fault Json
  | .text t => readText t
  | .bytes .view _ => .error (.notDocumentText "memoryview")
  | .bytes _ content => do readTextWith Json.readFromStart (← documentText content)
  | v => .error (.notDocumentText v.kind)

end Value

end ClientRegistration
