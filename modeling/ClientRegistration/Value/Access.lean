import ClientRegistration.Fault
namespace ClientRegistration

def occursIn {α : Type} [BEq α] (part : List α) : List α → Bool
  | [] => part.isEmpty
  | x :: rest => part.isPrefixOf (x :: rest) || occursIn part rest

namespace Value

def isNull : Value → Bool
  | .null => true
  | _ => false

def entries? : Value → Option (Fields Value Value)
  | .mapping entries => some entries
  | .metadata _ fields => some (fields.map fun (key, item) => (.text key, item))
  | _ => none

def checkHashable (key : Value) : Except Fault Unit :=
  match key.unhashable? with
  | some kind => .error (.unhashable kind)
  | none => .ok ()

def find (entries : Fields Value Value) (key : Value) : Except Fault (Option Value) := do
  key.checkHashable
  return entries.get? key

def store (entries : Fields Value Value) (key item : Value) :
    Except Fault (Fields Value Value) := do
  key.checkHashable
  return entries.put key item

mutual

def hasView : Value → Bool
  | .bytes .view _ => true
  | .list items | .tuple items | .set items => itemsHaveView items
  | .mapping entries => entriesHaveView entries
  | .metadata _ fields => fieldsHaveView fields
  | _ => false

def itemsHaveView : List Value → Bool
  | [] => false
  | item :: rest => hasView item || itemsHaveView rest

def entriesHaveView : List (Value × Value) → Bool
  | [] => false
  | (key, item) :: rest => hasView key || hasView item || entriesHaveView rest

def fieldsHaveView : List (Text × Value) → Bool
  | [] => false
  | (_, item) :: rest => hasView item || fieldsHaveView rest

end

def items : Value → Except Fault (List Value)
  | .text t => .ok (t.map fun c => .text [c])
  | .bytes _ content => .ok (content.map fun b => .int b.toNat)
  | .list items | .tuple items | .set items => .ok items
  | .mapping entries => .ok (Fields.keys entries)
  | .metadata _ fields => .ok (fields.map fun (key, _) => .text key)
  | v => .error (.notIterable v.kind)

/-- The integer which serves as an index or a byte; true and false are one and zero. -/
def integer? : Value → Option Int
  | .bool b => some (if b then 1 else 0)
  | .int n => some n
  | _ => none

def bytesContain (content : Bytes) (part : Value) : Except Fault Bool :=
  match part, part.integer? with
  | _, some n =>
    if 0 ≤ n ∧ n < 256 then .ok (content.any fun b => b.toNat = n) else .error .bufferRange
  | .bytes _ part, none => .ok (occursIn part content)
  | _, none => .error (.searchKind "bytes" part.kind)

/-- Whether a value holds another as its key, item or part. -/
def contains (v key : Value) : Except Fault Bool :=
  match v with
  | .text t =>
    match key with
    | .text part => .ok (occursIn part t)
    | _ => .error (.searchKind v.kind key.kind)
  | .bytes .view content => .ok (content.any fun b => key.equals (.int b.toNat))
  | .bytes _ content => bytesContain content key
  | .list items | .tuple items => .ok (items.contains key)
  | .set items => do
    key.checkHashable
    return items.contains key
  | _ =>
    match v.entries? with
    | some entries => return (← find entries key).isSome
    | none => .error (.notSearchable v.kind)

def itemAt (kind : Text) (items : List Value) (index : Int) : Except Fault Value :=
  if index < -0x8000000000000000 ∨ 0x8000000000000000 ≤ index then .error .hugeIndex
  else
    let place := if index < 0 then index + items.length else index
    match if place < 0 then none else items[place.toNat]? with
    | some item => .ok item
    | none => .error (.indexOutOfRange kind)

def subscript (v key : Value) : Except Fault Value :=
  match v with
  | .text _ | .bytes _ _ | .list _ | .tuple _ =>
    match key.integer? with
    | some index => do itemAt v.kind (← v.items) index
    | none => .error (.indexKind v.kind key.kind)
  | _ =>
    match v.entries? with
    | some entries => do
      match ← find entries key with
      | some item => return item
      | none => throw (.missingKey key)
    | none => .error (.notSubscriptable v.kind)

def pair (index : Nat) (v : Value) : Except Fault (Value × Value) :=
  match v.items with
  | .ok [key, item] => .ok (key, item)
  | .ok items => .error (.pairLength index items.length)
  | .error _ => .error (.pairKind index)

/-- Entries with pairs put after them; the pairs are counted from `index` on. -/
def storePairs (index : Nat) (entries : Fields Value Value) :
    List Value → Except Fault (Fields Value Value)
  | [] => .ok entries
  | v :: rest => do
    let (key, item) ← pair index v
    storePairs (index + 1) (← store entries key item) rest

def toEntries (v : Value) : Except Fault (Fields Value Value) :=
  match v.entries? with
  | some entries => .ok entries
  | none => do storePairs 0 [] (← v.items)

end Value

end ClientRegistration
