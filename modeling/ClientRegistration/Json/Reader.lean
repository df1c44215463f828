import ClientRegistration.Json.Basic
import ClientRegistration.Text.Digits
/-!
Reading JSON text, with `NaN`, `Infinity` and `-Infinity` besides the standard's values. A flaw is
told by what is wrong and by the text which is left where it is found; its position follows from
the length of that rest.

Arrays and objects may be nested to any depth: there is no limit on how deep the reader may go, and
so no failure for a text which goes too deep.
-/
namespace ClientRegistration.Json

inductive Problem where
  | byteOrderMark
  | expectingValue
  | extraData
  | expectingName
  | expectingColon
  | expectingComma
  | unterminatedString
  | controlCharacter
  | invalidEscape
  | invalidUnicodeEscape
deriving DecidableEq

/-- Why a text is refused, with the rest of the text from the place of the flaw on. -/
inductive Refusal where
  | malformed (problem : Problem) (rest : Text)
  | longInteger (digits : Nat)
deriving DecidableEq

def isBlank (c : CodePoint) : Bool :=
  c.val == 0x20 || c.val == 0x09 || c.val == 0x0A || c.val == 0x0D

def skipBlanks (s : Text) : Text := s.dropWhile isBlank

def eat? (c : Char) : Text → Option Text
  | [] => none
  | x :: rest => if x = c then some rest else none

def eatWord? : (word : Text) → Text → Option Text
  | [], s => some s
  | _, [] => none
  | w :: word, c :: s => if w = c then eatWord? word s else none

def hex4? (a b c d : CodePoint) : Option Nat := do
  let a ← Text.hexValue? a
  let b ← Text.hexValue? b
  let c ← Text.hexValue? c
  let d ← Text.hexValue? d
  some (((a * 16 + b) * 16 + c) * 16 + d)

def letterEscape? (c : CodePoint) : Option CodePoint :=
  if c = '"' then some '"'
  else if c = '\\' then some '\\'
  else if c = '/' then some '/'
  else if c = 'b' then some (CodePoint.ofNat 0x08)
  else if c = 'f' then some (CodePoint.ofNat 0x0C)
  else if c = 'n' then some '\n'
  else if c = 'r' then some '\r'
  else if c = 't' then some '\t'
  else none

/-- The low surrogate which is escaped right after an escaped high one; some text has to follow
it. -/
def lowSurrogate? (high : CodePoint) : Text → Option CodePoint
  | x :: y :: a :: b :: c :: d :: _ :: _ =>
    if high.isHighSurrogate && x = '\\' && y = 'u' then
      (hex4? a b c d).bind fun n =>
        if (CodePoint.ofNat n).isLowSurrogate then some (CodePoint.ofNat n) else none
    else none
  | _ => none

/-- A string after its opening quote, and what follows its closing quote. `opening` is the text
from the opening quote on. An escaped high surrogate joins an escaped low one right after it. -/
def stringBody (opening : Text) : Text → Except Refusal (Text × Text)
  | [] => .error (.malformed .unterminatedString opening)
  | c :: rest =>
    if c = '"' then .ok ([], rest)
    else if c = '\\' then
      match rest with
      | [] => .error (.malformed .unterminatedString opening)
      | e :: rest =>
        if e = 'u' then
          match rest with
          | h₁ :: h₂ :: h₃ :: h₄ :: next :: rest =>
            match hex4? h₁ h₂ h₃ h₄ with
            | none =>
              .error (.malformed .invalidUnicodeEscape (e :: h₁ :: h₂ :: h₃ :: h₄ :: next :: rest))
            | some n =>
              match lowSurrogate? (CodePoint.ofNat n) (next :: rest), rest with
              | some low, _ :: _ :: _ :: _ :: _ :: rest => do
                let (t, rest) ← stringBody opening rest
                .ok (CodePoint.joinSurrogates (CodePoint.ofNat n) low :: t, rest)
              | _, rest => do
                let (t, rest) ← stringBody opening (next :: rest)
                .ok (CodePoint.ofNat n :: t, rest)
          | short => .error (.malformed .invalidUnicodeEscape (e :: short))
        else
          match letterEscape? e with
          | none => .error (.malformed .invalidEscape (c :: e :: rest))
          | some x => do
            let (t, rest) ← stringBody opening rest
            .ok (x :: t, rest)
    else if c.val < 0x20 then .error (.malformed .controlCharacter (c :: rest))
    else do
      let (t, rest) ← stringBody opening rest
      .ok (c :: t, rest)

structure Numeral where
  negative : Bool
  whole : Text
  fraction : Text
  exponent : Option (Bool × Text)
deriving DecidableEq

def wholePart? (s : Text) : Option (Text × Text) :=
  match s with
  | [] => none
  | c :: rest =>
    if c = '0' then some ([c], rest)
    else if Text.isDigit c then some (Text.spanDigits s)
    else none

def fractionPart (s : Text) : Text × Text :=
  match eat? '.' s with
  | none => ([], s)
  | some rest =>
    let (digits, rest) := Text.spanDigits rest
    if digits.isEmpty then ([], s) else (digits, rest)

def sign (s : Text) : Bool × Text :=
  match eat? '-' s with
  | some rest => (true, rest)
  | none => (false, (eat? '+' s).getD s)

def exponentPart (s : Text) : Option (Bool × Text) × Text :=
  match (eat? 'e' s).or (eat? 'E' s) with
  | none => (none, s)
  | some rest =>
    let (negative, rest) := sign rest
    let (digits, rest) := Text.spanDigits rest
    if digits.isEmpty then (none, s) else (some (negative, digits), rest)

def number? (s : Text) : Option (Numeral × Text) := do
  let (negative, rest) := match eat? '-' s with
    | some rest => (true, rest)
    | none => (false, s)
  let (whole, rest) ← wholePart? rest
  let (fraction, rest) := fractionPart rest
  let (exponent, rest) := exponentPart rest
  some (⟨negative, whole, fraction, exponent⟩, rest)

namespace Numeral

def isInteger (n : Numeral) : Bool := n.fraction.isEmpty && n.exponent.isNone

def power (n : Numeral) : Int :=
  match n.exponent with
  | none => 0
  | some (negative, digits) =>
    if negative then -(Text.valueOfDigits digits : Int) else Text.valueOfDigits digits

/-- The value of a number, or the count of digits of an integer which is too long. -/
def value (n : Numeral) : Except Refusal Json :=
  if n.isInteger then
    if maxIntegerDigits < n.whole.length then .error (.longInteger n.whole.length)
    else
      let magnitude : Int := (Text.valueOfDigits n.whole : Nat)
      .ok (.int (if n.negative then -magnitude else magnitude))
  else
    .ok (.float (Binary64.ofDecimal n.negative (Text.valueOfDigits (n.whole ++ n.fraction))
      (n.power - n.fraction.length)))

end Numeral

def words : List (Text × Json) :=
  [("null", .null), ("true", .bool true), ("false", .bool false), ("NaN", .float .nan),
    ("Infinity", .float (.infinity false)), ("-Infinity", .float (.infinity true))]

def word? (s : Text) : Option (Json × Text) :=
  words.findSome? fun (word, value) => (eatWord? word s).map (value, ·)

def scalar (s : Text) : Except Refusal (Json × Text) :=
  match word? s with
  | some result => .ok result
  | none =>
    match number? s with
    | some (n, rest) => return (← n.value, rest)
    | none => .error (.malformed .expectingValue s)

mutual

def value : (fuel : Nat) → Text → Except Refusal (Json × Text)
  | 0, s => .error (.malformed .expectingValue s)
  | fuel + 1, s =>
    match eat? '"' s, eat? '[' s, eat? '{' s with
    | some rest, _, _ => do
      let (t, rest) ← stringBody s rest
      .ok (.text t, rest)
    | none, some rest, _ => do
      match eat? ']' (skipBlanks rest) with
      | some rest => .ok (.array [], rest)
      | none =>
        let (items, rest) ← elements fuel (skipBlanks rest)
        .ok (.array items, rest)
    | none, none, some rest => do
      match eat? '}' (skipBlanks rest) with
      | some rest => .ok (.object [], rest)
      | none =>
        let (entries, rest) ← members fuel (skipBlanks rest)
        .ok (.object (Fields.collect entries), rest)
    | none, none, none => scalar s

def elements : (fuel : Nat) → Text → Except Refusal (List Json × Text)
  | 0, s => .error (.malformed .expectingValue s)
  | fuel + 1, s => do
    let (item, rest) ← value fuel s
    let rest := skipBlanks rest
    match eat? ']' rest, eat? ',' rest with
    | some rest, _ => .ok ([item], rest)
    | none, some rest => do
      let (items, rest) ← elements fuel (skipBlanks rest)
      .ok (item :: items, rest)
    | none, none => .error (.malformed .expectingComma rest)

def members : (fuel : Nat) → Text → Except Refusal (List (Text × Json) × Text)
  | 0, s => .error (.malformed .expectingName s)
  | fuel + 1, s => do
    match eat? '"' s with
    | none => .error (.malformed .expectingName s)
    | some rest =>
      let (key, rest) ← stringBody s rest
      let rest := skipBlanks rest
      match eat? ':' rest with
      | none => .error (.malformed .expectingColon rest)
      | some rest =>
        let (item, rest) ← value fuel (skipBlanks rest)
        let rest := skipBlanks rest
        match eat? '}' rest, eat? ',' rest with
        | some rest, _ => .ok ([(key, item)], rest)
        | none, some rest => do
          let (entries, rest) ← members fuel (skipBlanks rest)
          .ok ((key, item) :: entries, rest)
        | none, none => .error (.malformed .expectingComma rest)

end

def readFromStart (s : Text) : Except Refusal Json := do
  let (document, rest) ← value (2 * s.length + 1) (skipBlanks s)
  let rest := skipBlanks rest
  if rest.isEmpty then .ok document else .error (.malformed .extraData rest)

/-- The document of a JSON text, which has no byte order mark. -/
def read (s : Text) : Except Refusal Json :=
  if (s.head?.map (·.val)) = some 0xFEFF then .error (.malformed .byteOrderMark s)
  else readFromStart s

namespace Problem

def message : Problem → Text
  | .byteOrderMark => "Unexpected UTF-8 BOM (decode using utf-8-sig)"
  | .expectingValue => "Expecting value"
  | .extraData => "Extra data"
  | .expectingName => "Expecting property name enclosed in double quotes"
  | .expectingColon => "Expecting ':' delimiter"
  | .expectingComma => "Expecting ',' delimiter"
  | .unterminatedString => "Unterminated string starting at"
  | .controlCharacter => "Invalid control character at"
  | .invalidEscape => "Invalid \\escape"
  | .invalidUnicodeEscape => "Invalid \\uXXXX escape"

end Problem

/-- What is wrong, and the line, column and position of a flaw after the text before it. -/
def malformedMessage (problem : Problem) (before : Text) : Text :=
  let newline : CodePoint := '\n'
  let column := (before.reverse.takeWhile (· ≠ newline)).length + 1
  problem.message ++ ": line " ++ Text.ofNat (before.count newline + 1) ++ " column " ++
    Text.ofNat column ++ " (char " ++ Text.ofNat before.length ++ ")"

def refusalMessage (s : Text) : Refusal → Text
  | .malformed problem rest => malformedMessage problem (s.take (s.length - rest.length))
  | .longInteger digits =>
    "Exceeds the limit (" ++ Text.ofNat maxIntegerDigits ++
      " digits) for integer string conversion: value has " ++ Text.ofNat digits ++
      " digits; use sys.set_int_max_str_digits() to increase the limit"

end ClientRegistration.Json
