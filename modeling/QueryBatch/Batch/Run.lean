import QueryBatch.Batch.Context
import QueryBatch.Batch.Queue

/-!
# Running batches

`runBatch` sends what a callback queues in one round trip, outside of any transaction.
`runBatchInTransaction` does so inside the transaction of its context or a new one, and
`inTransaction` runs any work that way. Whoever began a transaction finishes it: with a commit if
the work succeeded, else with a rollback, whose own failure is joined to the first one.
-/

namespace QueryBatch
namespace Driver

variable {σ ρ S α : Type}

/-- How long a rollback may take after the deadline, in milliseconds. -/
def rollbackGrace : Nat := 1000

/-- Commit a transaction. One that was finished further down counts as committed. -/
def commitOwned (d : Driver σ ρ) (ctx : Context) (tx : Nat) : Work σ S (Except Error Unit) := do
  match ← within ctx .commit (d.commitThrough tx) with
  | .error e => return .error e
  | .ok (.ok ()) => return .ok ()
  | .ok (.error .txClosed) => return .ok ()
  | .ok (.error e) => return .error (.commit e)

/-- Roll a transaction back after a failure, and answer the error to report. -/
def rollbackOwned (d : Driver σ ρ) (ctx : Context) (tx : Nat) (cause : Error) :
    Work σ S Error := do
  Work.change fun world => world.note "WARN"
    [("message", "rolling back transaction"), ("error", cause.message)]
  let result ← withinGrace ctx rollbackGrace .rollback (d.rollbackThrough tx)
  let result : Except DriverError Unit :=
    match result with
    | .ok r => r
    | .error timeout => .error (.connection timeout.message)
  match result with
  | .ok () => return cause
  | .error .txClosed => return cause
  | .error e => return .rollback cause e

/-- Run work in the transaction of a context, or in a new one that is finished after it. -/
def transact (d : Driver σ ρ) (ctx : Context)
    (body : Context → Nat → Work σ S (Except Error α)) : Work σ S (Except Error α) :=
  match ctx.tx with
  | some tx => body ctx tx
  | none => d.withTransaction ctx fun tx ctx => do
      match ← body ctx tx with
      | .ok a =>
          match ← d.commitOwned ctx tx with
          | .ok () => return .ok a
          | .error e => return .error e
      | .error cause => return .error (← d.rollbackOwned ctx tx cause)

/-- Send a filled batch, if it holds anything, and resolve its answers. -/
def sendBatch (ctx : Context) (batch : Batch ρ S)
    (send : List Statement → Work σ S (Answers ρ)) : Work σ S (Except Error Unit) := do
  if batch.isEmpty then return .ok ()
  Work.change fun world => world.record [("statements", toString batch.size)]
  match ← within ctx .send (send batch.statements) with
  | .error e => return .error e
  | .ok (.error e) => return .error (.send e)
  | .ok (.ok answers) =>
      match batch.resolve answers with
      | .error e => return .error e
      | .ok change =>
          Work.changeStore change
          return .ok ()

/-- Queue statements with a callback, send them outside of any transaction, and resolve them. If
the callback fails nothing is sent. -/
def runBatch (d : Driver σ ρ) (ctx : Context) (queue : Context → Queueing σ ρ S Unit) :
    Work σ S (Except Error Unit) :=
  Work.inSpan "run_batch" do
    match ← (queue ctx).fill with
    | .error e => return .error e
    | .ok batch => sendBatch ctx batch d.send

/-- Queue statements with a callback, send them inside the transaction of a context or a new one,
and resolve them. -/
def runBatchInTransaction (d : Driver σ ρ) (ctx : Context)
    (queue : Context → Queueing σ ρ S Unit) : Work σ S (Except Error Unit) :=
  Work.inSpan "run_batch_in_transaction" <| d.transact ctx fun ctx tx => do
    match ← (queue ctx).fill with
    | .error e => return .error e
    | .ok batch => sendBatch ctx batch (d.sendThrough tx)

/-- Run work with a context that carries a transaction. -/
def inTransaction (d : Driver σ ρ) (ctx : Context)
    (body : Context → Work σ S (Except Error α)) : Work σ S (Except Error α) :=
  d.transact ctx fun ctx _ => body ctx

end Driver
end QueryBatch
