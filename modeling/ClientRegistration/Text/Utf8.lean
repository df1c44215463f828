import ClientRegistration.Text.Piece
namespace ClientRegistration.Utf8

open Text (Piece)

def encodeChar (c : CodePoint) : Bytes :=
  let n := c.val
  if n < 0x80 then [UInt8.ofNat n]
  else if n < 0x800 then [UInt8.ofNat (0xC0 + n / 0x40), UInt8.ofNat (0x80 + n % 0x40)]
  else if n < 0x10000 then
    [UInt8.ofNat (0xE0 + n / 0x1000), UInt8.ofNat (0x80 + n / 0x40 % 0x40),
      UInt8.ofNat (0x80 + n % 0x40)]
  else
    [UInt8.ofNat (0xF0 + n / 0x40000), UInt8.ofNat (0x80 + n / 0x1000 % 0x40),
      UInt8.ofNat (0x80 + n / 0x40 % 0x40), UInt8.ofNat (0x80 + n % 0x40)]

def isTail (b : UInt8) : Bool := 0x80 ≤ b.toNat && b.toNat ≤ 0xBF

/-- Whether a byte may come second after a lead byte: no overlong form, no surrogate, nothing
above U+10FFFF. -/
def maySecond (lead b : UInt8) : Bool :=
  isTail b && (lead.toNat != 0xE0 || 0xA0 ≤ b.toNat) && (lead.toNat != 0xED || b.toNat ≤ 0x9F) &&
    (lead.toNat != 0xF0 || 0x90 ≤ b.toNat) && (lead.toNat != 0xF4 || b.toNat ≤ 0x8F)

def join₂ (a b : UInt8) : CodePoint := CodePoint.ofNat ((a.toNat - 0xC0) * 0x40 + (b.toNat - 0x80))

def join₃ (a b c : UInt8) : CodePoint :=
  CodePoint.ofNat ((a.toNat - 0xE0) * 0x1000 + (b.toNat - 0x80) * 0x40 + (c.toNat - 0x80))

def join₄ (a b c d : UInt8) : CodePoint :=
  CodePoint.ofNat ((a.toNat - 0xF0) * 0x40000 + (b.toNat - 0x80) * 0x1000 +
    (c.toNat - 0x80) * 0x40 + (d.toNat - 0x80))

def isSurrogateForm (a b c : UInt8) : Bool :=
  a.toNat == 0xED && isTail b && 0xA0 ≤ b.toNat && isTail c

/-- The pieces of a byte sequence. Encoded surrogates are pieces of their own only where
`surrogates` admits them. -/
def pieces (surrogates : Bool) : Bytes → List Piece
  | [] => []
  | a :: rest =>
    if a.toNat < 0x80 then .char (CodePoint.ofNat a.toNat) :: pieces surrogates rest
    else if a.toNat < 0xC2 || 0xF4 < a.toNat then
      .bad .invalidStart [a] :: pieces surrogates rest
    else
      match rest with
      | [] => [.bad .unexpectedEnd [a]]
      | b :: rest =>
        if a.toNat < 0xE0 then
          if isTail b then .char (join₂ a b) :: pieces surrogates rest
          else .bad .invalidContinuation [a] :: pieces surrogates (b :: rest)
        else if !maySecond a b then
          match rest with
          | c :: rest =>
            if surrogates && isSurrogateForm a b c then
              .char (join₃ a b c) :: pieces surrogates rest
            else .bad .invalidContinuation [a] :: pieces surrogates (b :: c :: rest)
          | [] => .bad .invalidContinuation [a] :: pieces surrogates [b]
        else
          match rest with
          | [] => [.bad .unexpectedEnd [a, b]]
          | c :: rest =>
            if !isTail c then .bad .invalidContinuation [a, b] :: pieces surrogates (c :: rest)
            else if a.toNat < 0xF0 then .char (join₃ a b c) :: pieces surrogates rest
            else
              match rest with
              | [] => [.bad .unexpectedEnd [a, b, c]]
              | d :: rest =>
                if isTail d then .char (join₄ a b c d) :: pieces surrogates rest
                else .bad .invalidContinuation [a, b, c] :: pieces surrogates (d :: rest)

end ClientRegistration.Utf8
