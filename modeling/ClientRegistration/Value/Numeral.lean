import ClientRegistration.Json.Reader
import ClientRegistration.Text.Numeral
import ClientRegistration.Value.Equality
namespace ClientRegistration

inductive NumeralFlaw where
  | unreadable
  | infinite
  | huge
deriving DecidableEq

namespace Text

/-- A numeral without its underscores, each of which has to stand between two digits. -/
def joinDigits (afterDigit : Bool) : Text → Option Text
  | [] => some []
  | c :: rest =>
    if c = '_' then
      if afterDigit && (rest.head?.map isDigit).getD false then joinDigits false rest else none
    else (c :: ·) <$> joinDigits (isDigit c) rest

def signedNumeral? (t : Text) : Option (Bool × Text) := do
  let numeral ← joinDigits false (stripBlanks (asciiNumeral t))
  some (Json.sign numeral)

def integer? (t : Text) : Option Int := do
  let (negative, digits) ← signedNumeral? t
  if digits.isEmpty || !digits.all isDigit || Json.maxIntegerDigits < digits.length then none
  else
    let magnitude : Int := (valueOfDigits digits : Nat)
    some (if negative then -magnitude else magnitude)

def asciiLower (t : Text) : Text :=
  t.map fun c => if 0x41 ≤ c.val ∧ c.val ≤ 0x5A then CodePoint.ofNat (c.val + 0x20) else c

/-- The floating point number of a numeral, or of the name of one that is not finite. -/
def binary64? (t : Text) : Option Binary64 := do
  let (negative, magnitude) ← signedNumeral? t
  let name := asciiLower magnitude
  if name = "nan" then some .nan
  else if name = "inf" ∨ name = "infinity" then some (.infinity negative)
  else
    let (whole, rest) := spanDigits magnitude
    let (fraction, rest) := match Json.eat? '.' rest with
      | some rest => spanDigits rest
      | none => ([], rest)
    let (exponent, rest) := Json.exponentPart rest
    let numeral : Json.Numeral := ⟨negative, whole, fraction, exponent⟩
    if (whole.isEmpty && fraction.isEmpty) || !rest.isEmpty then none
    else
      some (Binary64.ofDecimal negative (valueOfDigits (whole ++ fraction))
        (numeral.power - fraction.length))

end Text

namespace Value

/-- The text in which a numeral is looked for; bytes above ASCII are no part of one. -/
def numeralText? : Value → Option Text
  | .text t => some t
  | .bytes _ content =>
    some (content.map fun b => CodePoint.ofNat (if b.toNat < 0x80 then b.toNat else 0xFFFD))
  | _ => none

def numberOr {α : Type} (flaw : NumeralFlaw) : Option α → Except NumeralFlaw α
  | some number => .ok number
  | none => .error flaw

def toInteger (v : Value) : Except NumeralFlaw Int :=
  match v.number? with
  | some (.int n) => .ok n
  | some (.float (.infinity _)) => .error .infinite
  | some (.float x) => numberOr .unreadable x.truncate
  | none => numberOr .unreadable (v.numeralText?.bind Text.integer?)

def toBinary64 (v : Value) : Except NumeralFlaw Binary64 :=
  match v.number? with
  | some (.float x) => .ok x
  | some (.int n) => numberOr .huge (Binary64.ofInt? n)
  | none => numberOr .unreadable (v.numeralText?.bind Text.binary64?)

end Value

end ClientRegistration
