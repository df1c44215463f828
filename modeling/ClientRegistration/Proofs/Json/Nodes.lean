import ClientRegistration.Json.Basic
import ClientRegistration.Proofs.Fields
namespace ClientRegistration.Json

mutual

def Every (p : Json → Prop) : Json → Prop
  | .array items => p (.array items) ∧ EveryItem p items
  | .object members => p (.object members) ∧ EveryMember p members
  | leaf => p leaf

def EveryItem (p : Json → Prop) : List Json → Prop
  | [] => True
  | item :: rest => Every p item ∧ EveryItem p rest

def EveryMember (p : Json → Prop) : List (Text × Json) → Prop
  | [] => True
  | (_, item) :: rest => Every p item ∧ EveryMember p rest

end

theorem everyMember_iff {p : Json → Prop} {members : List (Text × Json)} :
    EveryMember p members ↔ ∀ member ∈ members, Every p member.2 := by
  induction members with
  | nil => simp [EveryMember]
  | cons member rest ih => simp [EveryMember, ih]

mutual

theorem Every.imp {p q : Json → Prop} (hpq : ∀ j, p j → q j) : {j : Json} → j.Every p → j.Every q
  | .array _, h => ⟨hpq _ h.1, EveryItem.imp hpq h.2⟩
  | .object _, h => ⟨hpq _ h.1, EveryMember.imp hpq h.2⟩
  | .null, h | .bool _, h | .int _, h | .float _, h | .text _, h => hpq _ h

theorem EveryItem.imp {p q : Json → Prop} (hpq : ∀ j, p j → q j) :
    {items : List Json} → EveryItem p items → EveryItem q items
  | [], _ => trivial
  | _ :: _, h => ⟨Every.imp hpq h.1, EveryItem.imp hpq h.2⟩

theorem EveryMember.imp {p q : Json → Prop} (hpq : ∀ j, p j → q j) :
    {members : List (Text × Json)} → EveryMember p members → EveryMember q members
  | [], _ => trivial
  | _ :: _, h => ⟨Every.imp hpq h.1, EveryMember.imp hpq h.2⟩

end

theorem keys_collapseMembers (members : List (Text × Json)) :
    Fields.keys (collapseMembers members) = Fields.keys members := by
  induction members with
  | nil => rfl
  | cons member rest ih => exact congrArg (member.1 :: ·) ih

/-- What a node of a document which has been read is like: an integer is not too long, the keys
of an object differ. -/
def Proper : Json → Prop
  | .int n => (Nat.toDigits 10 n.natAbs).length ≤ maxIntegerDigits
  | .object members => (Fields.keys members).Nodup
  | _ => True

/-- A document as reading gives it. -/
def Readable (j : Json) : Prop := j.Every Proper

mutual

theorem Readable.collapse_eq : {j : Json} → j.Readable → j.collapse = j
  | .array items, h => congrArg Json.array (collapseItems_eq h.2)
  | .object members, h => by
    rw [collapse, collapseMembers_eq h.2, Fields.collect_of_nodup h.1]
  | .null, _ | .bool _, _ | .int _, _ | .float _, _ | .text _, _ => rfl

theorem collapseItems_eq : {items : List Json} → EveryItem Proper items →
    collapseItems items = items
  | [], _ => rfl
  | item :: rest, h => by
    rw [collapseItems, Readable.collapse_eq h.1, collapseItems_eq h.2]

theorem collapseMembers_eq : {members : List (Text × Json)} → EveryMember Proper members →
    collapseMembers members = members
  | [], _ => rfl
  | (key, item) :: rest, h => by
    rw [collapseMembers, Readable.collapse_eq h.1, collapseMembers_eq h.2]

end

end ClientRegistration.Json
