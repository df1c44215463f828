import ClientRegistration.Binary64.Basic
import ClientRegistration.Text.Digits
namespace ClientRegistration.Binary64

structure Decimal where
  digits : Nat
  exponent : Int
deriving DecidableEq

namespace Decimal

def trim : (fuel : Nat) → Decimal → Decimal
  | 0, d => d
  | fuel + 1, d =>
    if d.digits ≠ 0 ∧ d.digits % 10 = 0 then trim fuel ⟨d.digits / 10, d.exponent + 1⟩ else d

end Decimal

def pointOfUnits (units : Nat) : Int :=
  let d : Int := (Nat.toDigits 10 units).length - (Nat.toDigits 10 unitsPerOne).length
  if unitsPerOne * Nat.pow 10 d.toNat ≤ units * Nat.pow 10 (-d).toNat then d + 1 else d

/-- The decimal of that many digits next to a number, if it reads back: of the one below and the
one above, the nearer that does. -/
def neighbour? (negative : Bool) (exponent : Fin 2047) (fraction : Fin (Nat.pow 2 52))
    (count : Nat) : Option Decimal :=
  let units := unitsOfFields exponent fraction
  let e := pointOfUnits units - count
  let numerator := units * Nat.pow 10 (-e).toNat
  let denominator := unitsPerOne * Nat.pow 10 e.toNat
  let below := numerator / denominator
  let rest := numerator % denominator
  let readsBack (digits : Nat) : Bool :=
    ofDecimal negative digits e == .finite negative exponent fraction
  let belowFirst := 2 * rest < denominator || (2 * rest == denominator && below % 2 == 0)
  let candidates := if belowFirst then [below, below + 1] else [below + 1, below]
  (candidates.find? readsBack).map fun digits => ⟨digits, e⟩

/-- The decimal with the fewest digits which reads back as a number, of these the nearest. All
digits of the exact value are the last resort. -/
def shortest (negative : Bool) (exponent : Fin 2047) (fraction : Fin (Nat.pow 2 52)) : Decimal :=
  match (List.range 17).findSome? fun n => neighbour? negative exponent fraction (n + 1) with
  | some d => d.trim 17
  | none => ⟨unitsOfFields exponent fraction * Nat.pow 5 1074, -1074⟩

/-- The text of a decimal above zero: positional from 10⁻⁴ to below 10¹⁶ with at least one digit
on either side of the point, else in scientific notation with at least two digits of exponent. -/
def textOfDecimal (d : Decimal) : Text :=
  let digits := Text.ofNat d.digits
  let point : Int := digits.length + d.exponent
  if -4 < point ∧ point ≤ 16 then
    if point ≤ 0 then "0." ++ List.replicate (-point).toNat ('0' : CodePoint) ++ digits
    else if digits.length ≤ point then
      digits ++ List.replicate (point.toNat - digits.length) ('0' : CodePoint) ++ ".0"
    else digits.take point.toNat ++ "." ++ digits.drop point.toNat
  else
    let mantissa := if digits.length = 1 then digits else digits.take 1 ++ "." ++ digits.drop 1
    let power := Text.ofNat (point - 1).natAbs
    mantissa ++ (if point - 1 < 0 then Text.ofString "e-" else Text.ofString "e+") ++
      (if power.length = 1 then ('0' : CodePoint) :: power else power)

def textOfFields (negative : Bool) (exponent : Fin 2047) (fraction : Fin (Nat.pow 2 52)) : Text :=
  let magnitude : Text :=
    if unitsOfFields exponent fraction = 0 then "0.0"
    else textOfDecimal (shortest negative exponent fraction)
  if negative then '-' :: magnitude else magnitude

end ClientRegistration.Binary64
