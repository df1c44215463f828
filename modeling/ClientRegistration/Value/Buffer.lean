import ClientRegistration.Value.Conversion
namespace ClientRegistration.Value

def content? : Value → Option Bytes
  | .bytes _ content => some content
  | _ => none

/-- From how many bytes on a buffer is larger than any memory. -/
def memoryLimit : Nat := 0x10000000000

def zeros (length : Int) : Except Fault Bytes :=
  if length < -0x8000000000000000 ∨ 0x8000000000000000 ≤ length then .error .hugeLength
  else if length < 0 then .error .negativeLength
  else if memoryLimit ≤ length.toNat then .error .outOfMemory
  else .ok (List.replicate length.toNat 0)

/-- The buffer which a value makes: a copy of a byte sequence, zeros for an integer, and of other
containers the items as bytes. -/
def toBuffer (v : Value) : Except Fault Bytes :=
  match v, v.integer? with
  | .text _, _ => .error .textWithoutCharset
  | .bytes _ content, _ => .ok content
  | _, some length => zeros length
  | _, none =>
    match v.items with
    | .ok items => items.mapM (byte .bufferRange)
    | .error _ => .error (.noByteSequence v.kind .buffer)

/-- The bytes which a value puts in the place of others: neither text nor a number does. -/
def toContent (v : Value) : Except Fault Bytes :=
  match v, v.number? with
  | .text _, _ | _, some _ => .error .noContent
  | _, none => v.toBuffer

def toAppended (v : Value) : Except Fault Bytes :=
  match v.content? with
  | some content => .ok content
  | none => .error (.noConcatenation v.kind)

def toPart (v : Value) : Except Fault Bytes :=
  match v.content? with
  | some content => .ok content
  | none => .error (.searchKind (Value.kind (.bytes .fixed [])) v.kind)

end ClientRegistration.Value
