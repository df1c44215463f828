import ClientRegistration.Text.Digits
import ClientRegistration.Text.Printable
namespace ClientRegistration

abbrev Bytes := List UInt8

namespace Text

/-- The quotation mark of a content: the single one, unless only the double one is free. -/
def quotationMark (single double : Bool) : CodePoint :=
  if single && !double then '"' else '\''

def escaped (mark c : CodePoint) : Text :=
  if c = mark || c = ('\\' : Char) then ['\\', c]
  else if c = ('\n' : Char) then "\\n"
  else if c = ('\r' : Char) then "\\r"
  else if c = ('\t' : Char) then "\\t"
  else if isPrintable c then [c]
  else if c.val < 0x100 then "\\x" ++ hex 2 c.val
  else if c.val < 0x10000 then "\\u" ++ hex 4 c.val
  else "\\U" ++ hex 8 c.val

def quoted (t : Text) : Text :=
  let mark := quotationMark (t.contains ('\'' : Char)) (t.contains ('"' : Char))
  mark :: t.flatMap (escaped mark) ++ [mark]

def escapedByte (mark : CodePoint) (b : UInt8) : Text :=
  if b.toNat < 0x7F then
    if 0x20 ≤ b.toNat || b.toNat = 0x09 || b.toNat = 0x0A || b.toNat = 0x0D then
      escaped mark (CodePoint.ofNat b.toNat)
    else "\\x" ++ hex 2 b.toNat
  else "\\x" ++ hex 2 b.toNat

/-- Bytes in quotation marks: the printable ASCII ones as characters, the others in hexadecimal.
In a buffer the single mark is always escaped. -/
def quotedBytes (buffer : Bool) (content : Bytes) : Text :=
  let mark := quotationMark (content.contains 0x27) (content.contains 0x22)
  let escapedMark : CodePoint := if buffer then '\'' else mark
  ('b' : CodePoint) :: mark :: content.flatMap (escapedByte escapedMark) ++ [mark]

end Text

end ClientRegistration
