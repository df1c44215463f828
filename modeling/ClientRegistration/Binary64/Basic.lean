namespace ClientRegistration

inductive Binary64 where
  | nan
  | infinity (negative : Bool)
  | finite (negative : Bool) (exponent : Fin 2047) (fraction : Fin (Nat.pow 2 52))
deriving DecidableEq

namespace Binary64

/-- How many times the least positive number goes into one. -/
def unitsPerOne : Nat := Nat.pow 2 1074

def unitsOfFields (exponent : Fin 2047) (fraction : Fin (Nat.pow 2 52)) : Nat :=
  if exponent.val = 0 then fraction.val
  else (Nat.pow 2 52 + fraction.val) * Nat.pow 2 (exponent.val - 1)

def zero (negative : Bool) : Binary64 :=
  .finite negative ⟨0, by decide⟩ ⟨0, by decide⟩

/-- The number of `significand * 2 ^ power` units, for a significand below 2⁵² with power 0, or
from 2⁵² to 2⁵³ with any; infinity if it is too large. -/
def pack (negative : Bool) (significand power : Nat) : Binary64 :=
  if small : significand < Nat.pow 2 52 then .finite negative ⟨0, by decide⟩ ⟨significand, small⟩
  else if significand = Nat.pow 2 53 then
    if fits : power + 2 < 2047 then .finite negative ⟨power + 2, fits⟩ ⟨0, by decide⟩
    else .infinity negative
  else if fits : power + 1 < 2047 ∧ significand - Nat.pow 2 52 < Nat.pow 2 52 then
    .finite negative ⟨power + 1, fits.1⟩ ⟨significand - Nat.pow 2 52, fits.2⟩
  else .infinity negative

/-- The whole number nearest to a quotient, the even one of two. -/
def roundQuotient (numerator denominator : Nat) : Nat :=
  let quotient := numerator / denominator
  let rest := numerator % denominator
  if 2 * rest < denominator then quotient
  else if denominator < 2 * rest then quotient + 1
  else quotient + quotient % 2

def ofUnits (negative : Bool) (numerator denominator : Nat) : Binary64 :=
  let power := (numerator / denominator).log2 - 52
  pack negative (roundQuotient numerator (denominator * Nat.pow 2 power)) power

def ofRatio (negative : Bool) (numerator denominator : Nat) : Binary64 :=
  ofUnits negative (numerator * unitsPerOne) denominator

/-- The number nearest to `digits * 10 ^ exponent`. Exponents which decide alone are not
expanded. -/
def ofDecimal (negative : Bool) (digits : Nat) (exponent : Int) : Binary64 :=
  if digits = 0 then zero negative
  else
    let magnitude := (Nat.toDigits 10 digits).length + exponent
    if 310 < magnitude then .infinity negative
    else if magnitude < -330 then zero negative
    else if 0 ≤ exponent then ofRatio negative (digits * Nat.pow 10 exponent.toNat) 1
    else ofRatio negative digits (Nat.pow 10 (-exponent).toNat)

def bounded? : Binary64 → Option Binary64
  | .infinity _ => none
  | x => some x

def ofInt? (n : Int) : Option Binary64 := (ofRatio (n < 0) n.natAbs 1).bounded?

def truncate : Binary64 → Option Int
  | .finite negative exponent fraction =>
    let whole : Int := (unitsOfFields exponent fraction / unitsPerOne : Nat)
    some (if negative then -whole else whole)
  | _ => none

/-- Equality as numbers: the two zeros are equal, and not-a-number is not equal to itself. -/
def equals : Binary64 → Binary64 → Bool
  | .finite n e f, .finite n' e' f' =>
    unitsOfFields e f == unitsOfFields e' f' && (n == n' || unitsOfFields e f == 0)
  | .infinity n, .infinity n' => n == n'
  | _, _ => false

def equalsInt : Binary64 → Int → Bool
  | .finite negative exponent fraction, i =>
    let units : Int := (unitsOfFields exponent fraction : Nat)
    (if negative then -units else units) == i * (unitsPerOne : Nat)
  | _, _ => false

def isNegative : Binary64 → Bool
  | .finite negative exponent fraction => negative && unitsOfFields exponent fraction != 0
  | .infinity negative => negative
  | .nan => false

def isZero : Binary64 → Bool
  | .finite _ exponent fraction => unitsOfFields exponent fraction == 0
  | _ => false

def succ : Binary64 → Binary64
  | .finite negative exponent fraction =>
    let units := unitsOfFields exponent fraction
    if !negative then ofUnits false (units + unitsPerOne) 1
    else if units < unitsPerOne then ofUnits false (unitsPerOne - units) 1
    else ofUnits (units != unitsPerOne) (units - unitsPerOne) 1
  | x => x

end Binary64

end ClientRegistration
