import ClientRegistration.Proofs.Session.Akin
namespace ClientRegistration

variable {σ : Type}

/-- What callers get of an operation that does not fail. -/
inductive Gain where
  | nothing
  | unfinished
  | number (number : Nat)
  | request (request : Request)

def Gain.ofResult : Option Nat → Gain
  | some made => .number made
  | none => .nothing

namespace Session

/-- An operation with what the caller gets of it. -/
def Operation.gain : Operation σ → Action σ Gain
  | .create document uri token config filters =>
    .number <$> Session.create document uri token config filters
  | .createOfResponse response config filters =>
    .number <$> Session.createOfResponse response config filters
  | .metadata number => .number <$> Session.metadata number
  | .append document key item => (fun _ => .nothing) <$> appendToDocument document key item
  | .operate number called new => .ofResult <$> Session.operate number called new
  | .call number called new => .number <$> Session.call number called new
  | .stepTask number =>
    (fun result => result.elim .unfinished .ofResult) <$> Session.stepTask number
  | .awaitCall number => .ofResult <$> Session.awaitCall number
  | .close number => (fun _ => .nothing) <$> closeHandle number
  | .markClosed number => (fun _ => .nothing) <$> Session.markClosed number
  | .prepare number called new => do
    return .number (← addRequest (← Session.prepare number called new))
  | .applyToPrepared number prepared => .request <$> Session.applyToPrepared number prepared
  | .parse number response => .number <$> Session.parse number response
  | .parseDelete response => (fun _ => .nothing) <$> Session.parseDelete response

theorem Operation.run_action (s : Session σ) (operation : Operation σ) :
    s.run operation.action = ((s.run operation.gain).1.map fun _ => (), (s.run operation.gain).2) := by
  have hmap {α : Type} (action : Action σ α) (f : α → Gain) :
      s.run (discard action) = ((s.run (f <$> action)).1.map fun _ => (), (s.run (f <$> action)).2) := by
    rw [run_discard, run_map]
    obtain ⟨fault | a, after⟩ := s.run action <;> rfl
  have hunit (action : Action σ Unit) (f : Unit → Gain) :
      s.run action = ((s.run (f <$> action)).1.map fun _ => (), (s.run (f <$> action)).2) := by
    rw [run_map]
    obtain ⟨fault | a, after⟩ := s.run action <;> rfl
  cases operation with
  | prepare number called new =>
    simp only [action, gain, run_discard, run_bind]
    generalize s.run (Session.prepare number called new) = prepared
    obtain ⟨fault | request, after⟩ := prepared
    · rfl
    · rfl
  | append => exact hunit _ _
  | close => exact hunit _ _
  | markClosed => exact hunit _ _
  | parseDelete => exact hunit _ _
  | _ => exact hmap _ _

/-- What callers do: an operation, one more filter for a handle, or operations in a block which
closes a handle at its end, and which a fault of the caller may end. -/
inductive Step (σ : Type) where
  | operation (operation : Operation σ)
  | filter (number : Nat) (filter : RequestFilter σ)
  | block (number : Nat) (operations : List (Operation σ)) (raised : Option Fault)

def Step.gain : Step σ → Action σ Gain
  | .operation done => done.gain
  | .filter number added => (fun _ => .nothing) <$> appendFilter number added
  | .block number operations raised => (fun _ => .nothing) <$> within number (do
    operations.forM (·.action)
    lift (raised.elim (.ok ()) .error))

/-- What is seen of steps one after the other: the result of each, with all that transport and
filters have seen up to its end. The session after them comes with it. -/
def observe (s : Session σ) :
    List (Step σ) → List (Except Fault Gain × List Event) × Session σ
  | [] => ([], s)
  | step :: rest =>
    let (result, after) := s.run step.gain
    let (observed, last) := after.observe rest
    ((result, after.visible) :: observed, last)

variable {variant : Variant}

theorem discreet_operation (operation : Operation σ) : Discreet variant operation.gain := by
  cases operation with
  | create document uri token config filters => exact (parallel_akin.create _ _ _ _ _).map _
  | createOfResponse response config filters => exact (parallel_akin.createOfResponse _ _ _).map _
  | metadata number => exact (parallel_akin.metadata number).map _
  | append document key item => exact (parallel_akin.appendToDocument _ _ _).map _
  | operate number called new => exact (discreet_operate number called new).map _
  | call number called new => exact (discreet_call number called new).map _
  | stepTask number => exact (discreet_stepTask number).map _
  | awaitCall number => exact (discreet_awaitCall number).map _
  | close number => exact (discreet_closeHandle number).map _
  | markClosed number => exact (parallel_akin.markClosed number).map _
  | prepare number called new =>
    apply (parallel_akin.prepare number called new).bind
    intro request
    exact (discreet_addRequest request).bind fun _ => follows_pure _
  | applyToPrepared number prepared => exact (discreet_applyToPrepared number prepared).map _
  | parse number response => exact (parallel_akin.parse number response).map _
  | parseDelete response => exact (parallel_akin.parseDelete response).map _

theorem discreet_action (operation : Operation σ) : Discreet variant operation.action := by
  intro s s' akin
  rw [operation.run_action, operation.run_action]
  obtain ⟨hresult, hafter⟩ := discreet_operation operation akin
  rw [hresult]
  exact ⟨rfl, hafter⟩

theorem discreet_forM (operations : List (Operation σ)) :
    Discreet variant (operations.forM (·.action) : Action σ Unit) := by
  induction operations with
  | nil => exact follows_pure _
  | cons operation rest ih =>
    apply (discreet_action operation).bind
    intro _
    exact ih

theorem discreet_step (step : Step σ) : Discreet variant step.gain := by
  cases step with
  | operation operation => exact discreet_operation operation
  | filter number filter => exact (parallel_akin.appendFilter number filter).map _
  | block number operations raised =>
    apply Follows.map
    apply discreet_within
    apply (discreet_forM operations).bind
    intro _
    exact follows_lift _

theorem Akin.observe_eq {s s' : Session σ} (akin : Akin variant s s') (steps : List (Step σ)) :
    (s'.observe steps).1 = (s.observe steps).1 ∧
      Akin variant (s.observe steps).2 (s'.observe steps).2 := by
  induction steps generalizing s s' with
  | nil => exact ⟨rfl, akin⟩
  | cons step rest ih =>
    obtain ⟨hresult, hafter⟩ := discreet_step step akin
    obtain ⟨hobserved, hlast⟩ := ih hafter
    refine ⟨?_, hlast⟩
    simp only [observe, hresult, hafter.visible, hobserved]

/-- Callers, transport and filters see the same of a session whatever faults its transport fails
with, as long as they are of the same kinds and come at the same places: every step has the same
result, be it a fault with all it tells, and the same requests are sent with the same waits between
them. Handles, documents, prepared requests and tasks are the same in the end. -/
theorem failures_stay_hidden {script script' : Script} (akin : Script.Akin variant script script')
    (filterState : σ) (steps : List (Step σ)) :
    let (observed, last) := observe { variant, script, filterState } steps
    let (observed', last') := observe { variant, script := script', filterState } steps
    observed' = observed ∧ last'.handles = last.handles ∧ last'.documents = last.documents ∧
      last'.requests = last.requests ∧ last'.tasks = last.tasks := by
  have fresh : Akin (σ := σ) variant { variant, script, filterState }
      { variant, script := script', filterState } := ⟨rfl, akin, rfl, rfl⟩
  obtain ⟨hobserved, hlast⟩ := fresh.observe_eq steps
  refine ⟨hobserved, ?_⟩
  rw [hlast.rest]
  exact ⟨rfl, rfl, rfl, rfl⟩

theorem failures_stay_hidden_of_other_faults :
    let script (unreached broken stuck : Fault) : Script :=
      { attempt := fun count =>
          if count = 0 then .error unreached
          else if count = 1 then .error broken
          else .ok (.ofText 200 (.text "\x7b\x7d"))
        release := fun _ => some stuck
        wait := fun _ => none
        refuses := fun _ => false }
    let unreached (name text : Text) : Fault := .ofMessage (.noConnection .blocking) name text
    let failure (name text : Text) : Fault := .ofMessage .ordinary name text
    let plain := script (unreached "ConnectionError" []) (failure "ReadTimeout" [])
      (failure "OSError" [])
    let telling := script (unreached "SSLError" "secret") (failure "OSError" "secret")
      (failure "InvalidURL" "secret")
    let steps : List (Step Unit) :=
      [.operation (.create (.mapping []) (.text "u") .null ⟨1, .int 2⟩ .absent),
        .operation (.operate 0 .read .null), .operation (.operate 0 .read .null),
        .operation (.close 0)]
    let observed (script : Script) : List (Except Fault Gain × List Event) :=
      (observe { variant := .blocking, script, filterState := () } steps).1
    Script.Akin .blocking plain telling ∧ observed telling = observed plain ∧
      (observed plain).map Prod.fst =
        [.ok (.number 0), .error unavailability, .ok (.number 1), .ok .nothing] := by
  intro script unreached failure plain telling steps observed
  have akin : Script.Akin .blocking plain telling := by
    constructor
    · intro count
      match count with
      | 0 => exact .failed (.ordinary (by decide) (by decide) (by decide))
      | 1 => exact .failed (.ordinary (by decide) (by decide) (by decide))
      | count + 2 => exact .answered _
    · intro count
      exact .some (.ordinary (by decide) (by decide) (by decide))
    · intro count
      rfl
    · rfl
  obtain ⟨hobserved, -⟩ := failures_stay_hidden akin () steps
  exact ⟨akin, hobserved, rfl⟩

end Session

end ClientRegistration
