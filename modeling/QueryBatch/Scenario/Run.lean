import QueryBatch.Batch.Run
import QueryBatch.Scenario.Step

/-!
# Running scenarios

Every step is made as work on the virtual clock, and how it ended is written into the journal,
after everything that the driver was asked for until then.
-/

namespace QueryBatch
namespace Scenario

/-- A driver, with what a scenario needs to know about it. -/
structure Stage (σ ρ ε ξ : Type) where
  driver : Driver σ ρ
  /-- Catch up with what happened before now. -/
  settle : {S : Type} → World σ S → World σ S
  /-- Take the events so far out, the newest first. -/
  drain : σ → List ε × σ
  /-- How rows are read. -/
  decoder : Reading → Decoder ρ Json
  /-- How the driver's own steps are made: their name, what to write, and how they failed. -/
  extra : ξ → Context →
    Work σ (Notebook ε) (String × List (String × Part) × Option Error)

variable {σ ρ ε ξ : Type}

namespace Stage

/-- Write a line after all events so far. -/
def writeLine (stage : Stage σ ρ ε ξ) (subject : Subject) (parts : List (String × Part))
    (world : World σ (Notebook ε)) : World σ (Notebook ε) :=
  let world := stage.settle world
  let (events, driver) := stage.drain world.driver
  { world with
    driver := driver
    store := (world.store.writeEvents events).write (.entry world.now subject parts) }

/-- Write a line. -/
def write (stage : Stage σ ρ ε ξ) (subject : Subject) (parts : List (String × Part)) :
    Work σ (Notebook ε) Unit :=
  Work.change (stage.writeLine subject parts)

/-- A truth value as a part. -/
def flag (b : Bool) : Part := .json (.bool b)

/-- The milliseconds up to a deadline as a part; null without a deadline. -/
def remaining (ctx : Context) (now : Nat) : Part :=
  .json (Json.ofOption (fun deadline => .nat (deadline - now)) ctx.deadline)

/-- A statement of a batch as a part of the journal. -/
def answerParts (answers : List (Answer ρ)) : Json :=
  .array (answers.map fun answer =>
    .object [("rows", .nat answer.rows.length), ("affected", .nat answer.rowsAffected)])

/-- How a call to the driver ended. -/
def driverResult (f : α → Json) : Except DriverError α → Part
  | .ok a => .json (f a)
  | .error e => .driver e

/-- One action of a queue callback. -/
def act (stage : Stage σ ρ ε ξ) (ctx : Context) : Action →
    Queueing σ ρ (Notebook ε) Unit
  | .query text args expect via slot decode => do
      let query : TypedQuery ρ Json := ⟨text, args, decode.map stage.decoder, expect⟩
      let ensure (kind : SlotKind) : Queueing σ ρ (Notebook ε) Unit :=
        Queueing.changeWorld fun world => { world with store := world.store.ensureSlot kind slot }
      match via with
      | .queue =>
          ensure .one
          query.queue (Notebook.oneSlot slot)
      | .queueMany =>
          ensure .many
          query.queueMany (Notebook.manySlot slot)
      | .queueExec => query.queueExec
      | .queueExecInto =>
          ensure .affected
          query.queueExecInto (Notebook.affectedSlot slot)
  | .fail message => throw (.other message)
  | .inspect => do
      let batch ← Queueing.batch
      Queueing.changeWorld <| stage.writeLine (.queue "inspect")
        [("transaction", flag ctx.tx.isSome), ("len", .json (.nat batch.size)),
          ("is_empty", flag batch.isEmpty),
          ("statements", .statements batch.statements),
          ("debug", .json (.string batch.shown))]

/-- A queue callback made of items. -/
def callback (stage : Stage σ ρ ε ξ) (ctx : Context) : List Item →
    Queueing σ ρ (Notebook ε) Unit
  | [] => pure ()
  | item :: rest => do
      if item.guarded then
        tryCatch (stage.act ctx item.action) fun e =>
          Queueing.changeWorld (stage.writeLine (.queue "caught") [("result", .error e)])
      else stage.act ctx item.action
      callback stage ctx rest

/-- Ask something of a slot. -/
def askSlot (shown : α → String) (toJson : α → Json) (slot : Slot (Notebook ε) α) :
    SlotCall → Notebook ε → Json × Notebook ε
  | .get, book => (Json.ofOption toJson (slot.get book), book)
  | .take, book =>
      let (value, book) := slot.take book
      (Json.ofOption toJson value, book)
  | .isFilled, book => (.bool (slot.get book).isSome, book)
  | .shown, book => (.string (shownSlot shown (slot.get book)), book)

/-- Ask something of a named slot, which is created if it is not there. -/
def askNamed (kind : SlotKind) (name : String) (call : SlotCall) (book : Notebook ε) :
    Json × Notebook ε :=
  let book := book.ensureSlot kind name
  match kind with
  | .one => askSlot Json.shown id (Notebook.oneSlot name) call book
  | .many => askSlot shownList .array (Notebook.manySlot name) call book
  | .affected => askSlot (fun n => toString n) .nat (Notebook.affectedSlot name) call book

/-- Ask something of the handle of a transaction. -/
def askHandle (stage : Stage σ ρ ε ξ) (tx : Nat) : HandleCall →
    Work σ (Notebook ε) (String × Part)
  | .isClosed => do return ("value", flag (← Driver.isClosed tx))
  | .commit => do
      return ("result", driverResult (fun _ => .string "done") (← stage.driver.commitThrough tx))
  | .rollback => do
      return ("result", driverResult (fun _ => .string "done") (← stage.driver.rollbackThrough tx))
  | .send statements => do
      return ("result", driverResult answerParts (← stage.driver.sendThrough tx statements))

/-- Write how a step ended, and answer its failure. -/
def close (stage : Stage σ ρ ε ξ) (name : String) (result : Except Error (List (String × Part))) :
    Work σ (Notebook ε) (Except Error Unit) := do
  match result with
  | .ok parts =>
      stage.write (.step name) (("ok", flag true) :: parts)
      return .ok ()
  | .error e =>
      stage.write (.step name) [("result", .error e)]
      return .error e

/-- An answer without parts. -/
def plain (result : Except Error Unit) : Except Error (List (String × Part)) :=
  result.map fun _ => []

mutual

/-- Make a step. -/
def runStep (stage : Stage σ ρ ε ξ) (ctx : Context) :
    Step ξ → Work σ (Notebook ε) (Except Error Unit)
  | .runBatch items => do
      let result ← stage.driver.runBatch ctx fun ctx => stage.callback ctx items
      stage.close "run_batch" (plain result)
  | .runBatchInTransaction items => do
      let result ← stage.driver.runBatchInTransaction ctx fun ctx => stage.callback ctx items
      stage.close "run_batch_in_transaction" (plain result)
  | .inTransaction body => do
      let result ← stage.driver.inTransaction ctx fun ctx => do
        stage.write (.enter "in_transaction") [("transaction", flag ctx.tx.isSome)]
        runBody stage ctx body
      stage.close "in_transaction" (plain result)
  | .withTransaction body => do
      let result ← stage.driver.withTransaction ctx fun tx derived => do
        stage.write (.enter "with_transaction")
          [("reused", flag (ctx.tx = some tx)), ("carried", flag (derived.tx = some tx))]
        runBody stage derived body
      stage.close "with_transaction" (plain result)
  | .withTimeout ms body => do
      let now ← Work.now
      let ctx := ctx.withTimeout now ms
      stage.write (.enter "with_timeout") [("remaining_ms", remaining ctx now)]
      let result ← runBody stage ctx body
      stage.close "with_timeout" (plain result)
  | .abandon ms body => do
      let now ← Work.now
      match ← Work.giveUpAt (now + ms) (runBody stage ctx body) with
      | some result => stage.close "abandon" (plain result)
      | none => stage.close "abandon" (.ok [("abandoned", flag true)])
  | .fail message => stage.close "fail" (.error (.other message))
  | .sleep ms => do
      Work.sleep ms
      stage.close "sleep" (.ok [])
  | .context => do
      let now ← Work.now
      let shown := if ctx.deadline.isSome then [] else [("debug", .json (.string ctx.shown))]
      stage.close "context"
        (.ok (("transaction", flag ctx.tx.isSome) :: ("remaining_ms", remaining ctx now) :: shown))
  | .slot kind name call => do
      let value ← Work.step fun world =>
        let (value, store) := askNamed kind name call world.store
        (value, { world with store := store })
      stage.close "slot" (.ok [("value", .json value)])
  | .handle call => do
      let part ← match ctx.tx with
        | none => pure ("none", flag true)
        | some tx => stage.askHandle tx call
      stage.close "tx" (.ok [("call", .json (.string call.name)), part])
  | .ping => do
      match ← stage.driver.ping with
      | .ok () => stage.close "ping" (.ok [])
      | .error e => stage.close "ping" (.ok [("result", .driver e)])
  | .statusCheck => do
      match ← stage.driver.statusCheck ctx with
      | .ok () => stage.close "status_check" (.ok [("result", .json (.string "healthy"))])
      | .error e => stage.close "status_check" (.ok [("result", .health e)])
  | .send statements => do
      let answers ← stage.driver.send statements
      stage.close "send" (.ok [("result", driverResult answerParts answers)])
  | .extra step => do
      let (name, parts, failure) ← stage.extra step ctx
      stage.write (.step name) parts
      match failure with
      | none => return .ok ()
      | some e => return .error e

/-- Make the steps of a body up to the first that fails unguarded. -/
def runBody (stage : Stage σ ρ ε ξ) (ctx : Context) :
    Body ξ → Work σ (Notebook ε) (Except Error Unit)
  | .finish none => pure (.ok ())
  | .finish (some message) => pure (.error (.other message))
  | .next guarded step rest => do
      match ← runStep stage ctx step with
      | .ok () => runBody stage ctx rest
      | .error e => if guarded then runBody stage ctx rest else return .error e

end

/-- Make steps one after the other, whether they fail or not. -/
def runAll (stage : Stage σ ρ ε ξ) (ctx : Context) : List (Step ξ) → Work σ (Notebook ε) Unit
  | [] => pure ()
  | step :: rest => do
      let _ ← stage.runStep ctx step
      runAll stage ctx rest

/-- The world at the start of a scenario. -/
def startWorld (state : σ) : World σ (Notebook ε) :=
  { now := 0, spans := [], notes := [], openTx := [], driver := state, store := {} }

/-- What is left of a scenario: its journal, its slots, its log and the state of the driver. -/
structure Record (σ ε : Type) where
  lines : List (Line ε)
  slots : Slots
  notes : List Note
  driver : σ

/-- What a world holds at the end of a scenario. -/
def record (stage : Stage σ ρ ε ξ) (world : World σ (Notebook ε)) : Record σ ε :=
  let (events, driver) := stage.drain world.driver
  let book := world.store.writeEvents events
  ⟨book.lines.reverse, book.slots, world.notes.reverse, driver⟩

/-- Run a scenario. -/
def play (stage : Stage σ ρ ε ξ) (state : σ) (ctx : Context) (steps : List (Step ξ)) :
    Record σ ε :=
  stage.record (stage.runAll ctx steps none (startWorld state)).2

end Stage

end Scenario
end QueryBatch
