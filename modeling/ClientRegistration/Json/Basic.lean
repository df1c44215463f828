import ClientRegistration.Binary64.Basic
import ClientRegistration.Fields
import ClientRegistration.Text.Basic
namespace ClientRegistration

inductive Json where
  | null
  | bool (b : Bool)
  | int (n : Int)
  | float (x : Binary64)
  | text (t : Text)
  | array (items : List Json)
  | object (members : List (Text × Json))

namespace Json

/-- An integer of more digits is neither read nor written. -/
def maxIntegerDigits : Nat := 4300

mutual

/-- The document with repeated keys taken together at every level: one member at the place of the
first, with the value of the last. -/
def collapse : Json → Json
  | .array items => .array (collapseItems items)
  | .object members => .object (Fields.collect (collapseMembers members))
  | leaf => leaf

def collapseItems : List Json → List Json
  | [] => []
  | item :: rest => collapse item :: collapseItems rest

def collapseMembers : List (Text × Json) → List (Text × Json)
  | [] => []
  | (key, value) :: rest => (key, collapse value) :: collapseMembers rest

end

end Json

end ClientRegistration
