import ClientRegistration.Text.Piece
namespace ClientRegistration

open Text (Piece)

inductive ByteOrder where
  | little
  | big
deriving DecidableEq

namespace ByteOrder

def number : ByteOrder → Bytes → Nat
  | .little, bytes => bytes.foldr (fun b n => b.toNat + 0x100 * n) 0
  | .big, bytes => bytes.foldl (fun n b => 0x100 * n + b.toNat) 0

end ByteOrder

namespace Utf16

def unit (order : ByteOrder) (a b : UInt8) : CodePoint := CodePoint.ofNat (order.number [a, b])

def width (c : CodePoint) : Nat := if c.val < 0x10000 then 2 else 4

def pieces (order : ByteOrder) : Bytes → List Piece
  | [] => []
  | [a] => [.bad .truncated [a]]
  | a :: b :: rest =>
    let first := unit order a b
    match rest with
    | c :: d :: rest =>
      let second := unit order c d
      if first.isHighSurrogate && second.isLowSurrogate then
        .char (CodePoint.joinSurrogates first second) :: pieces order rest
      else .char first :: pieces order (c :: d :: rest)
    | rest => .char first :: pieces order rest

end Utf16

namespace Utf32

def pieces (order : ByteOrder) : Bytes → List Piece
  | [] => []
  | a :: b :: c :: d :: rest =>
    let n := order.number [a, b, c, d]
    (if n < 0x110000 then .char (CodePoint.ofNat n) else .bad .beyondUnicode [a, b, c, d]) ::
      pieces order rest
  | rest => [.bad .truncated rest]

end Utf32

end ClientRegistration
