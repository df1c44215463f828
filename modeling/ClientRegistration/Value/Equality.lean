import ClientRegistration.Value.Basic
namespace ClientRegistration

inductive Number where
  | int (n : Int)
  | float (x : Binary64)
deriving DecidableEq

namespace Number

def equals : Number → Number → Bool
  | .int n, .int m => n == m
  | .float x, .float y => x.equals y
  | .int n, .float x | .float x, .int n => x.equalsInt n

def isNegative : Number → Bool
  | .int n => n < 0
  | .float x => x.isNegative

end Number

namespace Value

def ofNumber : Number → Value
  | .int n => .int n
  | .float x => .float x

def number? : Value → Option Number
  | .bool b => some (.int (if b then 1 else 0))
  | .int n => some (.int n)
  | .float x => some (.float x)
  | .documentNaN => some (.float .nan)
  | _ => none

def leafEquals (v w : Value) : Bool :=
  match v.number?, w.number? with
  | some n, some m => n.equals m
  | none, none =>
    match v, w with
    | .null, .null => true
    | .text t, .text u => t = u
    | .bytes _ b, .bytes _ c => b = c
    | .endpoint e, .endpoint f => e = f
    | _, _ => false
  | _, _ => false

def isDocumentNaN : Value → Bool
  | .documentNaN => true
  | _ => false

mutual

/-- Direct comparison of two values. -/
def equals : Value → Value → Bool
  | .list xs, .list ys | .tuple xs, .tuple ys => itemsEqual xs ys
  | .set xs, .set ys => xs.length == ys.length && within xs ys
  | .mapping xs, .mapping ys => xs.length == ys.length && entriesWithin xs ys
  | .mapping xs, .metadata _ ys =>
    xs.length == ys.length && entriesWithin xs (ys.map fun (k, v) => (.text k, v))
  | .metadata _ xs, .mapping ys => xs.length == ys.length && fieldsWithin xs ys
  | .metadata _ xs, .metadata _ ys =>
    xs.length == ys.length && fieldsWithin xs (ys.map fun (k, v) => (.text k, v))
  | v, w => leafEquals v w

def itemsEqual : List Value → List Value → Bool
  | [], [] => true
  | x :: xs, y :: ys => ((x.isDocumentNaN && y.isDocumentNaN) || equals x y) && itemsEqual xs ys
  | _, _ => false

def within : List Value → List Value → Bool
  | [], _ => true
  | x :: xs, ys =>
    (ys.any fun y => (x.isDocumentNaN && y.isDocumentNaN) || equals x y) && within xs ys

def entriesWithin : List (Value × Value) → List (Value × Value) → Bool
  | [], _ => true
  | (k, v) :: xs, ys =>
    (ys.any fun (l, w) =>
      ((k.isDocumentNaN && l.isDocumentNaN) || equals k l) &&
        ((v.isDocumentNaN && w.isDocumentNaN) || equals v w)) && entriesWithin xs ys

def fieldsWithin : List (Text × Value) → List (Value × Value) → Bool
  | [], _ => true
  | (k, v) :: xs, ys =>
    (ys.any fun (l, w) =>
      leafEquals (.text k) l && ((v.isDocumentNaN && w.isDocumentNaN) || equals v w)) &&
      fieldsWithin xs ys

end

/-- Comparison as items of containers and as keys. -/
def sameItem (v w : Value) : Bool := (v.isDocumentNaN && w.isDocumentNaN) || equals v w

instance : BEq Value := ⟨sameItem⟩

end Value

end ClientRegistration
