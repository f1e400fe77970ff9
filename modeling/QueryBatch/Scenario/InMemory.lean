import QueryBatch.Scenario.Memory
import QueryBatch.Scenario.Run

/-!
# Scenarios over the driver in memory

Rows are JSON values. A summary counts what the driver was asked for.
-/

namespace QueryBatch
namespace Scenario
namespace InMemory

/-- How a JSON row is read. -/
def decoder : Reading → Decoder Json Json
  | .value => fun row => .ok row
  | .name => fun row =>
      match (row.field? "name").bind Json.string? with
      | some s => .ok (.string s)
      | none => .error "column \"name\" is not a string"
  | .count => fun row =>
      match (row.field? "count").bind Json.int? with
      | some n =>
          if -0x8000000000000000 ≤ n ∧ n < 0x8000000000000000 then .ok (.int n)
          else .error "column \"count\" is not an integer"
      | none => .error "column \"count\" is not an integer"
  | _ => fun _ => .error "bad row"

/-- The stage, which knows no steps of its own. -/
def stage : Stage Memory.State Json Memory.Event Empty where
  driver := Memory.driver
  settle := id
  drain := Memory.State.drain
  decoder := decoder
  extra := fun step _ => nomatch step

/-- What the driver was asked for. -/
structure Summary where
  /-- The texts of every batch. -/
  sent : List (List String)
  begins : Nat
  pings : Nat
  commits : Nat
  rollbacks : Nat

/-- The events of a journal. -/
def events (lines : List (Line ε)) : List ε :=
  lines.filterMap fun
    | .event event => some event
    | .entry _ _ _ => none

/-- The texts of a batch. -/
def batchTexts : Memory.Event → Option (List String)
  | .send _ statements => some (statements.map fun s => s.sql.text)
  | _ => none

/-- The summary of a journal. -/
def summary (lines : List (Line Memory.Event)) : Summary :=
  let events := events lines
  { sent := events.filterMap batchTexts
    begins := events.countP fun | .begin => true | _ => false
    pings := events.countP fun | .ping => true | _ => false
    commits := events.countP fun | .commit => true | _ => false
    rollbacks := events.countP fun | .rollback => true | _ => false }

/-- Run a scenario over a script. -/
def play (script : Memory.Script) (timeout : Option Nat) (steps : List (Step Empty)) :
    Stage.Record Memory.State Memory.Event :=
  stage.play { script := script } { deadline := timeout } steps

end InMemory
end Scenario
end QueryBatch
