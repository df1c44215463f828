import ClientRegistration.Text.Charset
import ClientRegistration.Text.Wide
namespace ClientRegistration.Json

open Text (Piece)

inductive Encoding where
  | utf8
  | utf16 (order : ByteOrder)
  | utf32 (order : ByteOrder)
deriving DecidableEq

namespace Encoding

def name : Encoding → Text
  | .utf8 => "utf-8"
  | .utf16 .little => "utf-16-le"
  | .utf16 .big => "utf-16-be"
  | .utf32 .little => "utf-32-le"
  | .utf32 .big => "utf-32-be"

def width : Encoding → CodePoint → Nat
  | .utf8, c => (Utf8.encodeChar c).length
  | .utf16 _, c => Utf16.width c
  | .utf32 _, _ => 4

def pieces : Encoding → Bytes → List Piece
  | .utf8, bytes => Utf8.pieces true bytes
  | .utf16 order, bytes => Utf16.pieces order bytes
  | .utf32 order, bytes => Utf32.pieces order bytes

def ofStart : Bytes → Encoding
  | [a, b] => if a = 0 then .utf16 .big else if b = 0 then .utf16 .little else .utf8
  | a :: b :: c :: d :: _ =>
    if a = 0 then if b = 0 then .utf32 .big else .utf16 .big
    else if b = 0 then if c = 0 ∧ d = 0 then .utf32 .little else .utf16 .little
    else .utf8
  | _ => .utf8

end Encoding

/-- A document in bytes: its encoding, the bytes without a byte order mark, and the position of
the first of them. -/
structure Encoded where
  encoding : Encoding
  start : Nat
  content : Bytes

namespace Encoded

/-- The document in a byte sequence. Positions in UTF-8 are counted from after the mark. -/
def ofBytes : Bytes → Encoded
  | 0x00 :: 0x00 :: 0xFE :: 0xFF :: rest => ⟨.utf32 .big, 4, rest⟩
  | 0xFF :: 0xFE :: 0x00 :: 0x00 :: rest => ⟨.utf32 .little, 4, rest⟩
  | 0xFE :: 0xFF :: rest => ⟨.utf16 .big, 2, rest⟩
  | 0xFF :: 0xFE :: rest => ⟨.utf16 .little, 2, rest⟩
  | 0xEF :: 0xBB :: 0xBF :: rest => ⟨.utf8, 0, rest⟩
  | bytes => ⟨.ofStart bytes, 0, bytes⟩

def text (e : Encoded) : Except ConversionFlaw Text :=
  textOfPieces e.encoding.name e.encoding.width .strict e.start (e.encoding.pieces e.content)

end Encoded

end ClientRegistration.Json
