import ClientRegistration.Binary64.Shortest
import ClientRegistration.Json.Basic
/-!
Compact JSON text: no blanks, members in their order. Text is written as it is but for what JSON
forbids, or, in ASCII, with everything above `~` escaped.

Documents may be nested to any depth. The one limit on writing is the number of digits of an
integer.
-/
namespace ClientRegistration.Json

def unitEscape (n : Nat) : Text := "\\u" ++ Text.hex 4 n

def writeChar (ascii : Bool) (c : CodePoint) : Text :=
  if c = '"' then "\\\""
  else if c = '\\' then "\\\\"
  else if c = '\n' then "\\n"
  else if c = '\r' then "\\r"
  else if c = '\t' then "\\t"
  else if c.val = 0x08 then "\\b"
  else if c.val = 0x0C then "\\f"
  else if c.val < 0x20 then unitEscape c.val
  else if ascii && 0x7E < c.val then
    if c.val < 0x10000 then unitEscape c.val
    else
      unitEscape (0xD800 + (c.val - 0x10000) / 0x400) ++
        unitEscape (0xDC00 + (c.val - 0x10000) % 0x400)
  else [c]

def writeText (ascii : Bool) (t : Text) : Text :=
  "\"" ++ t.flatMap (writeChar ascii) ++ "\""

def writeFloat : Binary64 → Text
  | .nan => "NaN"
  | .infinity negative => if negative then "-Infinity" else "Infinity"
  | .finite negative exponent fraction => Binary64.textOfFields negative exponent fraction

mutual

def write (ascii : Bool) : Json → Text
  | .null => "null"
  | .bool b => if b then "true" else "false"
  | .int n => Text.ofInt n
  | .float x => writeFloat x
  | .text t => writeText ascii t
  | .array [] => "[]"
  | .array (item :: rest) => "[" ++ write ascii item ++ writeItems ascii rest ++ "]"
  | .object [] => "\x7b\x7d"
  | .object ((key, item) :: rest) =>
    "\x7b" ++ writeText ascii key ++ ":" ++ write ascii item ++ writeMembers ascii rest ++ "\x7d"

def writeItems (ascii : Bool) : List Json → Text
  | [] => []
  | item :: rest => "," ++ write ascii item ++ writeItems ascii rest

def writeMembers (ascii : Bool) : List (Text × Json) → Text
  | [] => []
  | (key, item) :: rest =>
    "," ++ writeText ascii key ++ ":" ++ write ascii item ++ writeMembers ascii rest

end

end ClientRegistration.Json
