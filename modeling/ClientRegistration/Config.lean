import ClientRegistration.Arguments
import ClientRegistration.Text.Uppercase
import ClientRegistration.Value.Access
import ClientRegistration.Value.Literal
import ClientRegistration.Value.Numeral
namespace ClientRegistration

structure Config where
  retryCount : Nat
  delay : Number
deriving DecidableEq

namespace Config

def retryCountName : Text := "connection_retry_count"

def delayName : Text := "connection_delay"

def standard : Config := ⟨3, .float (.ofDecimal false 1 0)⟩

def make (retryCount delay : Value) : Except SettingFlaw Config :=
  match retryCount, delay.number? with
  | .int n, number =>
    if n < 0 then .error .retryCountNegative
    else
      match delay, number with
      | .bool _, _ | _, none => .error .delayKind
      | _, some number =>
        if number.isNegative then .error .delayNegative else .ok ⟨n.toNat, number⟩
  | _, _ => .error .retryCountKind

def withFields (base : Config) (fields : Fields Text Value) : Except Fault Config :=
  let retryCount := (fields.get? retryCountName).getD (.int base.retryCount)
  let delay := (fields.get? delayName).getD (.ofNumber base.delay)
  match make retryCount delay with
  | .ok config => .ok config
  | .error flaw => .error (.setting flaw)

def signature : Signature :=
  ⟨"ClientRegistrationConfig", [], [retryCountName, delayName]⟩

def construct (positional : List Value) (named : Fields Text Value) : Except Fault Config := do
  withFields standard (← signature.bind positional named)

def replace (config : Config) (changes : Fields Text Value) : Except Fault Config := do
  withFields config (← signature.bind [] changes)

def readSetting (settings : Value) (key : Text) (read : Value → Except NumeralFlaw Value) :
    Except Fault (Option Value) := do
  if ← settings.contains (.text key) then
    let value ← settings.subscript (.text key)
    match read value with
    | .ok number => return some number
    | .error .unreadable => throw (.unreadableSetting key value)
    | .error .infinite => throw .infiniteInteger
    | .error .huge => throw .hugeInteger
  else return none

/-- The settings in a mapping under the upper case names after a prefix. -/
def fromMapping (settings : Value) (start : Text) : Except Fault Config := do
  let key (name : Text) : Text := Text.upper (start ++ name)
  let retryCount ← readSetting settings (key retryCountName) fun v => .int <$> v.toInteger
  let delay ← readSetting settings (key delayName) fun v => .float <$> v.toBinary64
  withFields standard
    ((retryCount.map (retryCountName, ·)).toList ++ (delay.map (delayName, ·)).toList)

def delayValue (config : Config) : Value := .ofNumber config.delay

def literal (config : Config) : Text :=
  "ClientRegistrationConfig(" ++ retryCountName ++ "=" ++ Text.ofNat config.retryCount ++ ", " ++
    delayName ++ "=" ++ config.delayValue.literal ++ ")"

/-- Equality of settings, as numbers; a delay which is not a number equals none. -/
def equals (config other : Config) : Bool :=
  config.retryCount == other.retryCount && config.delay.equals other.delay

def refuseAssignment {α : Type} (name : Value) : Except Fault α :=
  match name with
  | .text _ => .error (.frozenSetting name)
  | v => .error (.attributeNameKind v.kind)

end Config

end ClientRegistration
