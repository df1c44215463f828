import ClientRegistration.Filter.Basic
namespace ClientRegistration

/-- Filters as a caller gives them. The keys of a mapping may be any values. -/
inductive FilterSet (σ : Type) where
  | absent
  | listed (filters : List (RequestFilter σ))
  | keyed (entries : Fields Value (List (RequestFilter σ)))

inductive Registry (σ : Type) where
  | listed (filters : List (RequestFilter σ))
  | keyed (groups : Fields Endpoint (List (RequestFilter σ)))

variable {σ : Type}

def selectListed (accepts : Endpoint → Bool) :
    List (RequestFilter σ) → Except Fault (List (RequestFilter σ))
  | [] => .ok []
  | filter :: rest => do
    let accepted ← filter.isAccepted accepts
    let selected ← selectListed accepts rest
    return if accepted then filter :: selected else selected

/-- The filters of a mapping for a key, after those for every endpoint. -/
def selectKeyed {κ : Type} [BEq κ] (every wanted : κ) (isEvery : Bool)
    (groups : Fields κ (List (RequestFilter σ))) : List (RequestFilter σ) :=
  (groups.get? every).getD [] ++ if isEvery then [] else (groups.get? wanted).getD []

/-- Groups with a filter added to the group of each type it declares, once for each time. -/
def addDeclared (filter : RequestFilter σ) (groups : Fields Endpoint (List (RequestFilter σ))) :
    List Value → Except Fault (Fields Endpoint (List (RequestFilter σ)))
  | [] => .ok groups
  | v :: rest => do
    let e ← Endpoint.ofValue v
    addDeclared filter (groups.put e ((groups.get? e).getD [] ++ [filter])) rest

def addAll (groups : Fields Endpoint (List (RequestFilter σ))) :
    List (RequestFilter σ) → Except Fault (Fields Endpoint (List (RequestFilter σ)))
  | [] => .ok groups
  | filter :: rest => do addAll (← addDeclared filter groups (← filter.declared.items)) rest

/-- Groups with the entries of a mapping put over them; the last of two for one endpoint stays. -/
def putGroups (groups : Fields Endpoint (List (RequestFilter σ))) :
    Fields Value (List (RequestFilter σ)) →
      Except Fault (Fields Endpoint (List (RequestFilter σ)))
  | [] => .ok groups
  | (key, filters) :: rest => do putGroups (groups.put (← Endpoint.ofValue key) filters) rest

namespace FilterSet

def group : FilterSet σ → Except Fault (Fields Endpoint (List (RequestFilter σ)))
  | .absent => .ok []
  | .listed filters => addAll [] filters
  | .keyed entries => putGroups [] entries

def normalize : FilterSet σ → Except Fault (Registry σ)
  | .absent | .keyed [] => .ok (.listed [])
  | .listed filters => .ok (.listed filters)
  | .keyed entries => Registry.keyed <$> putGroups [] entries

/-- The filters which apply to what a value stands for; only endpoints themselves match. -/
def matching (filters : FilterSet σ) (wanted : Value) :
    Except Fault (List (RequestFilter σ)) := do
  wanted.checkHashable
  let isEvery := wanted == .endpoint .all
  match filters with
  | .absent => throw (.notIterable (Value.kind .null))
  | .listed filters => selectListed (fun e => e = .all || wanted == .endpoint e) filters
  | .keyed entries => return selectKeyed (.endpoint .all) wanted isEvery entries

end FilterSet

namespace Registry

def toFilterSet : Registry σ → FilterSet σ
  | .listed filters => .listed filters
  | .keyed groups => .keyed (groups.map fun (e, filters) => (.endpoint e, filters))

def matching (registry : Registry σ) (wanted : Endpoint) :
    Except Fault (List (RequestFilter σ)) :=
  registry.toFilterSet.matching (.endpoint wanted)

def append (filter : RequestFilter σ) : Registry σ → Except Fault (Registry σ)
  | .listed filters => .ok (.listed (filters ++ [filter]))
  | .keyed _ => .error (.missingAttribute (Value.kind (.mapping [])) "append")

def isEmpty : Registry σ → Bool
  | .listed filters => filters.isEmpty
  | .keyed groups => groups.isEmpty

end Registry

end ClientRegistration
