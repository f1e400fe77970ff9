import QueryBatch.Catalog.Service
import QueryBatch.Postgres.Driver
import QueryBatch.Scenario.Run
import QueryBatch.Scenario.Server

/-!
# Scenarios over the driver for PostgreSQL

The driver talks to a scripted server. Further steps use the pool itself and the exercise
catalogue over it.
-/

namespace QueryBatch
namespace Scenario
namespace Postgres

open QueryBatch.Postgres
open Scripted (Server Script Event)

/-- The state of the driver over the scripted server, and how many identifiers were made up. -/
abbrev PoolState := State Server

/-- A step that only this driver knows. -/
inductive Call
  | batchExecute (script : String)
  | pool
  | close
  | health
  | exercises (filter : Filter) (page : Page)
  | exercise (id : Uuid)
  | create (exercise : NewExercise)

/-- The first of the identifiers that are made up, in the form of a random one. -/
def firstMade : Nat := 0x5eed5eed5eed4eed8eed5eed00000000

/-- The number of identifiers that can be made up. -/
def madeCount : Nat := UInt32.size

/-- An identifier to make up. -/
def madeId (n : Nat) : Uuid := ⟨⟨firstMade + n % madeCount, by
  have : n % madeCount < 0x100000000 := Nat.mod_lt _ (by decide)
  unfold firstMade
  omega⟩⟩

/-- Whether an identifier is one of those. -/
def isMade (u : Uuid) : Bool := firstMade ≤ u.value.val ∧ u.value.val < firstMade + madeCount

/-- A cell as JSON. -/
def cellJson (type : ColumnType) : Cell → Json
  | .null => .null
  | .bool b => .bool b
  | .int n => if type = .int8 then .string (toString n) else .int n
  | .text s => .string s
  | .texts ss => .strings ss
  | .uuid u => .string u.text
  | .timestamp us => .string (toString us)

/-- A record as JSON, or the reason why it has none. -/
def recordJson : Except Exercise.Unwritable Json → Json
  | .ok v => v
  | .error e => .object [("error", .string "JsonData"), ("message", .string e.message)]

/-- How a row is read. -/
def decoder : Reading → Decoder Row Json
  | .value => fun row => .ok <| .object <| Json.sortFields <|
      row.cells.map fun (column, cell) => (column.name, cellJson column.type cell)
  | .name => Row.decoder fun row => .string <$> row.text "name"
  | .count => Row.decoder fun row => .int <$> row.int8 "count"
  | .fail => fun _ => .error "bad row"
  | .exercise => Row.decoder fun row => do
      return recordJson (← Catalog.readExercise row).toJson
  | .result => Row.decoder fun row => do
      let found ← Catalog.readMatch row
      return .array [recordJson found.exercise.toJson, .string (toString found.total)]

/-- The network of the scripted server. -/
def network : Network Server := Server.network

/-- What is seen of a pool. -/
def poolJson (pool : Pool) : Json :=
  .object [("closed", .bool pool.closed), ("idle", .nat pool.idle.length)]

variable {S : Type}

/-- What is seen of the pool. -/
def seePool : Work PoolState S Json := Work.look fun world => poolJson world.driver.pool

/-- How a step ended with a value. -/
def succeeded (name : String) (value : Json) : String × List (String × Part) × Option Error :=
  (name, [("ok", .json (.bool true)), ("value", .json value)], none)

/-- How a step ended with an error, which goes on as one of the caller. -/
def failed (name : String) (part : Part) (message : String) :
    String × List (String × Part) × Option Error :=
  (name, [("result", part)], some (.other message))

/-- How a call to the catalogue ended. -/
def catalogEnd (name : String) (toJson : α → Except Exercise.Unwritable Json) :
    Except Catalog.Error α → String × List (String × Part) × Option Error
  | .ok a => succeeded name (recordJson (toJson a))
  | .error e => failed name (.catalog e) e.message

/-- Take a new identifier. -/
def makeId : Work PoolState S Uuid := Work.step fun world =>
  let server := world.driver.network
  (madeId server.nextMade,
    { world with driver :=
      { world.driver with network := { server with nextMade := server.nextMade + 1 } } })

/-- Make a step of this driver. -/
def call (step : Call) (ctx : Context) :
    Work PoolState S (String × List (String × Part) × Option Error) :=
  match step with
  | .batchExecute script => do
      match ← network.batchExecute script with
      | .ok () => return succeeded "batch_execute" (.string "done")
      | .error e => return failed "batch_execute" (.driver e) e.message
  | .pool => do return succeeded "pool" (← seePool)
  | .close => do
      network.closePool
      return succeeded "close" (← seePool)
  | .health => do
      match ← network.driver.statusCheck ctx with
      | .ok () => return succeeded "health" (.string "healthy")
      | .error e => return failed "health" (.health e) e.message
  | .exercises filter page => do
      let result ← Catalog.search network.driver .rows ctx filter page
      return catalogEnd "exercises" Catalog.Matches.toJson result
  | .exercise id => do
      let result ← Catalog.fetch network.driver .rows ctx id
      return catalogEnd "exercise" Exercise.toJson result
  | .create exercise => do
      let id ← makeId
      let result ← Catalog.create network.driver .rows ctx id exercise
      return catalogEnd "create" Exercise.toJson result

/-- The stage. -/
def stage : Stage PoolState Row Event Call where
  driver := network.driver
  settle := fun world =>
    let settled := network.settle
      { now := world.now, spans := world.spans, notes := world.notes, openTx := world.openTx,
        driver := world.driver.network, store := world.store }
    { world with
      notes := settled.notes
      driver := { world.driver with network := settled.driver } }
  drain := fun state =>
    let (events, server) := state.network.drain
    (events, { state with network := server })
  decoder := decoder
  extra := call

/-- How a scenario went. -/
structure Performance where
  /-- What was seen of the pool after its first connections were opened, or why they were not; only
  if they were to be opened in advance. -/
  connected : Option (Except DriverError Json)
  record : Stage.Record PoolState Event
  /-- What is seen of the pool at the end. -/
  pool : Json
  /-- The identifiers that were made up and seen by the server, in the order of appearance. -/
  made : List Uuid

/-- Open the first connections if they are to be opened, and run the steps unless that fails. -/
def perform (connects : Bool) (ctx : Context) (steps : List (Step Call)) :
    Work PoolState (Notebook Event) (Option (Except DriverError Json)) := do
  if connects then
    match ← network.fill with
    | .error e => return some (.error e)
    | .ok () =>
        let seen ← seePool
        stage.runAll ctx steps
        return some (.ok seen)
  else
    stage.runAll ctx steps
    return none

/-- Run a scenario over a script. -/
def play (script : Script) (options : PoolOptions) (connects : Bool) (timeout : Option Nat)
    (steps : List (Step Call)) : Performance :=
  let server : Server := { script := script, madeUp := isMade }
  let world := Stage.startWorld (State.start options server)
  let (ending, world) := perform connects { deadline := timeout } steps none world
  let connected := match ending with
    | .done connected => connected
    | _ => none
  { connected := connected
    record := stage.record world
    pool := poolJson world.driver.pool
    made := world.driver.network.made.reverse }

end Postgres
end Scenario
end QueryBatch
