import AudioGraph.Script.Operation

/-!
# Delivering scripts

A `Transport` takes operations to an engine, one at a time.  It has a state, and may refuse an operation.
`Transport.replay` delivers a script in order and stops at the first refusal.
-/

namespace AudioGraph

/-- Why an engine does not take an operation. -/
structure Refusal where
  message : String
  deriving DecidableEq

/-- Where and why the delivery of a script has stopped. -/
structure DeliveryFailure where
  /-- The place of the refused operation in the script. -/
  index : Nat
  action : Action
  source : Refusal
  deriving DecidableEq

/-- The wording of a failed delivery. -/
def DeliveryFailure.message (f : DeliveryFailure) : String :=
  "operation " ++ toString f.index ++ " (" ++ f.action.name ++ ") failed: " ++ f.source.message

universe u

/-- Sends an operation: takes it or refuses it, and moves to another state. -/
structure Transport (σ : Type u) where
  send : σ → Operation → Except Refusal Unit × σ

namespace Transport

variable {σ : Type u}

/-- Delivers operations, of which the first has the given index. -/
def replayFrom (transport : Transport σ) : Nat → List Operation → σ → Except DeliveryFailure Nat × σ
  | index, [], state => (.ok index, state)
  | index, op :: rest, state =>
    match transport.send state op with
    | (.ok (), state) => replayFrom transport (index + 1) rest state
    | (.error source, state) => (.error ⟨index, op.action, source⟩, state)

/-- Delivers a script, and returns the number of operations that were sent. -/
def replay (transport : Transport σ) (script : List Operation) (state : σ) : Except DeliveryFailure Nat × σ :=
  transport.replayFrom 0 script state

/-- A transport that records the actions of the operations it takes, the last one first, and refuses an operation if
it has recorded a given number of them. -/
def recorder (refuseAt : Option Nat) (message : String) : Transport (List Action) where
  send recorded op :=
    if refuseAt = some recorded.length then (.error ⟨message⟩, recorded) else (.ok (), op.action :: recorded)

end Transport

end AudioGraph
