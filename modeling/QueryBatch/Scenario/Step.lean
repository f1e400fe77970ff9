import QueryBatch.Scenario.Journal

/-!
# Scenarios

A scenario is a list of steps, made one after the other with a context. Some steps have a body of
further steps, which are made with a derived context; a step that fails ends the body it stands in
unless it is guarded. `ξ` are the steps that only some drivers know.
-/

namespace QueryBatch
namespace Scenario

/-- The ways to read a row. -/
inductive Reading
  /-- The whole row. -/
  | value
  /-- The text under `name`. -/
  | name
  /-- The integer under `count`. -/
  | count
  /-- None: it always fails. -/
  | fail
  /-- An exercise. -/
  | exercise
  /-- An exercise and the number of matches. -/
  | result
  deriving DecidableEq, Repr, Inhabited

/-- The calls that queue a query. -/
inductive Via
  | queue
  | queueMany
  | queueExec
  | queueExecInto
  deriving DecidableEq, Repr, Inhabited

/-- What a queue callback does. -/
inductive Action
  /-- Queue a query. -/
  | query (text : String) (args : Arguments) (expect : Expectation) (via : Via) (slot : String)
      (decode : Option Reading)
  /-- Fail. -/
  | fail (message : String)
  /-- Write down what can be seen. -/
  | inspect

/-- An action of a queue callback; a guarded one does not end it by failing. -/
structure Item where
  action : Action
  guarded : Bool

/-- What is asked of a slot. -/
inductive SlotCall
  | get
  | take
  | isFilled
  | shown
  deriving DecidableEq, Repr, Inhabited

/-- What is asked of the handle of a transaction. -/
inductive HandleCall
  | isClosed
  | commit
  | rollback
  | send (statements : List Statement)

/-- The name of such a call. -/
def HandleCall.name : HandleCall → String
  | .isClosed => "is_closed"
  | .commit => "commit"
  | .rollback => "rollback"
  | .send _ => "send"

mutual

/-- A step of a scenario. -/
inductive Step (ξ : Type)
  | runBatch (queue : List Item)
  | runBatchInTransaction (queue : List Item)
  | inTransaction (body : Body ξ)
  | withTransaction (body : Body ξ)
  | withTimeout (ms : Nat) (body : Body ξ)
  | abandon (ms : Nat) (body : Body ξ)
  | fail (message : String)
  | sleep (ms : Nat)
  | context
  | slot (kind : SlotKind) (name : String) (call : SlotCall)
  | handle (call : HandleCall)
  | ping
  | statusCheck
  | send (statements : List Statement)
  | extra (step : ξ)

/-- The steps of a body. -/
inductive Body (ξ : Type)
  /-- No more steps; the body succeeds or fails with a message. -/
  | finish (failure : Option String)
  /-- A step, guarded or not, and then more. -/
  | next (guarded : Bool) (step : Step ξ) (rest : Body ξ)

end

end Scenario
end QueryBatch
