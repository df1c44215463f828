import ClientRegistration.Handle
import ClientRegistration.Session.Event
namespace ClientRegistration

/-- What the transport does: how each attempt ends, which releases and waits fail, and after how
many releases it refuses all requests. -/
structure Script where
  attempt : Nat → Except Fault Response
  release : Nat → Option Fault
  wait : Nat → Option Fault
  refuses : Nat → Bool

inductive Call where
  | read
  | update
  | delete
deriving DecidableEq

/-- How far a task has come. The numbers count how often its request may be sent again. -/
inductive Stage where
  | called
  | attempting (retries : Nat)
  | waiting (retries : Nat)
  | finished
deriving DecidableEq

/-- An operation of a handle which has been called and is carried out step by step. -/
structure Task where
  handle : Nat
  call : Call
  request : Request
  stage : Stage

structure Session (σ : Type) where
  variant : Variant
  script : Script
  filterState : σ
  documents : List Metadata := []
  handles : List (Handle σ) := []
  requests : List Request := []
  tasks : List Task := []
  attempts : Nat := 0
  releases : Nat := 0
  waits : Nat := 0
  journal : List Event := []

end ClientRegistration
