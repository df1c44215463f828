import ClientRegistration.Text.Utf8
namespace ClientRegistration

open Text (Piece Reason)

inductive Charset where
  | utf8
  | ascii
  | latin1
deriving DecidableEq

/-- What happens to a character or byte outside the charset. A handler is only looked up by its
name when there is one, so an unknown name is kept. -/
inductive Leniency where
  | strict
  | ignore
  | replace
  | unknown (name : Text)
deriving DecidableEq

/-- Why a conversion fails. Bytes can be in a charset which only documents have, so that one is
told by its name. -/
inductive ConversionFlaw where
  | unencodable (charset : Charset) (start : Nat) (run : Text)
  | undecodable (charset : Text) (start : Nat) (reason : Reason) (stretch : Bytes)
  | nullCharacter
  | unknownCharset (name : Text)
  | unknownHandler (name : Text)
deriving DecidableEq

namespace Leniency

def ofName (name : Text) : Leniency :=
  if name = "strict" then .strict
  else if name = "ignore" then .ignore
  else if name = "replace" then .replace
  else .unknown name

end Leniency

namespace Charset

def name : Charset → Text
  | .utf8 => "utf-8"
  | .ascii => "ascii"
  | .latin1 => "latin-1"

def ofName? (name : Text) : Option Charset :=
  [utf8, ascii, latin1].find? (·.name = name)

def named (name : Text) : Except ConversionFlaw Charset :=
  match ofName? name with
  | some charset => .ok charset
  | none => .error (.unknownCharset name)

def knows : Charset → CodePoint → Bool
  | .utf8, c => !c.isSurrogate
  | .ascii, c => c.val < 0x80
  | .latin1, c => c.val < 0x100

def encodeChar : Charset → CodePoint → Bytes
  | .utf8, c => Utf8.encodeChar c
  | _, c => [UInt8.ofNat c.val]

def encode (charset : Charset) (leniency : Leniency) (t : Text) : Except ConversionFlaw Bytes :=
  let (known, rest) := t.span charset.knows
  if rest.isEmpty then .ok (t.flatMap charset.encodeChar)
  else
    match leniency with
    | .strict =>
      .error (.unencodable charset known.length (rest.takeWhile fun c => !charset.knows c))
    | .ignore => .ok ((t.filter charset.knows).flatMap charset.encodeChar)
    | .replace =>
      .ok (t.flatMap fun c => if charset.knows c then charset.encodeChar c else [0x3F])
    | .unknown name => .error (.unknownHandler name)

def pieces : Charset → Bytes → List Piece
  | .utf8, bytes => Utf8.pieces false bytes
  | .ascii, bytes =>
    bytes.map fun b =>
      if b.toNat < 0x80 then .char (CodePoint.ofNat b.toNat) else .bad (.outOfRange 128) [b]
  | .latin1, bytes => bytes.map fun b => .char (CodePoint.ofNat b.toNat)

end Charset

/-- The text of pieces from a position on, in a charset of that name where a code point takes so
many bytes. -/
def textOfPieces (name : Text) (width : CodePoint → Nat) (leniency : Leniency) :
    Nat → List Piece → Except ConversionFlaw Text
  | _, [] => .ok []
  | position, .char c :: rest =>
    (c :: ·) <$> textOfPieces name width leniency (position + width c) rest
  | position, .bad reason stretch :: rest =>
    match leniency with
    | .strict => .error (.undecodable name position reason stretch)
    | .ignore => textOfPieces name width leniency (position + stretch.length) rest
    | .replace =>
      (CodePoint.ofNat 0xFFFD :: ·) <$>
        textOfPieces name width leniency (position + stretch.length) rest
    | .unknown handler => .error (.unknownHandler handler)

namespace Charset

def width (charset : Charset) (c : CodePoint) : Nat := (charset.encodeChar c).length

def decode (charset : Charset) (leniency : Leniency) (bytes : Bytes) :
    Except ConversionFlaw Text :=
  textOfPieces charset.name charset.width leniency 0 (charset.pieces bytes)

/-- Refuses a text which can name neither a charset nor a handler: one with surrogates, or with a
null character. -/
def checkName (name : Text) : Except ConversionFlaw Unit := do
  discard (utf8.encode .strict name)
  if name.contains (CodePoint.ofNat 0) then throw .nullCharacter

end Charset

namespace ConversionFlaw

def charNumber (c : CodePoint) : Text :=
  if c.val < 0x100 then "\\x" ++ Text.hex 2 c.val
  else if c.val < 0x10000 then "\\u" ++ Text.hex 4 c.val
  else "\\U" ++ Text.hex 8 c.val

def unencodableReason : Charset → Text
  | .utf8 => "surrogates not allowed"
  | .ascii => "ordinal not in range(128)"
  | .latin1 => "ordinal not in range(256)"

def undecodableReason : Reason → Text
  | .invalidStart => "invalid start byte"
  | .invalidContinuation => "invalid continuation byte"
  | .unexpectedEnd => "unexpected end of data"
  | .outOfRange limit => "ordinal not in range(" ++ Text.ofNat limit ++ ")"
  | .truncated => "truncated data"
  | .beyondUnicode => "code point not in range(0x110000)"

def positions (start length : Nat) : Text :=
  if length = 1 then " in position " ++ Text.ofNat start
  else " in position " ++ Text.ofNat start ++ "-" ++ Text.ofNat (start + length - 1)

def shownRun : Text → Text
  | [c] => " '" ++ charNumber c ++ "'"
  | _ => "s"

def shownStretch : Bytes → Text
  | [b] => " 0x" ++ Text.hex 2 b.toNat
  | _ => "s"

def shownHandlerBytes : Nat := 400

/-- The start of a text which takes at most so many bytes; a character cut through is replaced. -/
def cut (limit : Nat) (t : Text) : Text :=
  let pieces := Utf8.pieces false ((t.flatMap Utf8.encodeChar).take limit)
  pieces.map fun piece => match piece with
    | .char c => c
    | .bad .. => CodePoint.ofNat 0xFFFD

def message : ConversionFlaw → Text
  | .unencodable charset start run =>
    "'" ++ charset.name ++ "' codec can't encode character" ++ shownRun run ++
      positions start run.length ++ ": " ++ unencodableReason charset
  | .undecodable charset start reason stretch =>
    "'" ++ charset ++ "' codec can't decode byte" ++ shownStretch stretch ++
      positions start stretch.length ++ ": " ++ undecodableReason reason
  | .nullCharacter => "embedded null character"
  | .unknownCharset name => "unknown encoding: " ++ name
  | .unknownHandler name =>
    "unknown error handler name '" ++ cut shownHandlerBytes name ++ "'"

end ConversionFlaw

end ClientRegistration
