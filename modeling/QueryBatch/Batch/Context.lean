import QueryBatch.Batch.Driver

/-!
# Contexts

A context is handed down a chain of calls. It carries the transaction that was begun further up, if
any, and a deadline that bounds every call to the driver; neither can be undone further down. The
handle of a transaction is closed by the first commit or rollback, and everything after that
answers that the transaction is closed.
-/

namespace QueryBatch

/-- The transaction and the deadline that calls are made with. -/
structure Context where
  tx : Option Nat := none
  deadline : Option Nat := none
  deriving DecidableEq, Repr, Inhabited

namespace Context

/-- Neither transaction nor deadline. -/
def empty : Context := {}

/-- The same deadline with a transaction. -/
def derive (ctx : Context) (tx : Nat) : Context := { ctx with tx := some tx }

/-- The same transaction with the earlier of two deadlines. -/
def withDeadline (ctx : Context) (deadline : Nat) : Context :=
  { ctx with deadline := some (Work.earlier deadline ctx.deadline) }

/-- The same transaction with a deadline so many milliseconds after a time, or an earlier one. -/
def withTimeout (ctx : Context) (now ms : Nat) : Context := ctx.withDeadline (now + ms)

/-- The context as shown to a person, where it has no deadline. -/
def shown (ctx : Context) : String :=
  "Context \x7b transaction: " ++ (if ctx.tx.isSome then "true" else "false")
    ++ ", deadline: None \x7d"

end Context

variable {σ ρ S α : Type}

/-- Give work up at a deadline, if there is one. -/
def until? (deadline : Option Nat) (phase : Phase) (w : Work σ S α) : Work σ S (Except Error α) :=
  match deadline with
  | none => .ok <$> w
  | some deadline => do
      match ← Work.giveUpAt deadline w with
      | some a => return .ok a
      | none => return .error (.deadlineExceeded phase)

/-- Give work up at the deadline of a context. -/
def within (ctx : Context) (phase : Phase) (w : Work σ S α) : Work σ S (Except Error α) :=
  until? ctx.deadline phase w

/-- Like `within`, but leave at least `grace` from now. -/
def withinGrace (ctx : Context) (grace : Nat) (phase : Phase) (w : Work σ S α) :
    Work σ S (Except Error α) := do
  let t ← Work.now
  until? (ctx.deadline.map fun deadline => max deadline (t + grace)) phase w

namespace Driver

/-- Whether the handle of a transaction is closed. -/
def isClosed (tx : Nat) : Work σ S Bool := Work.look fun world => !world.openTx.contains tx

/-- Close the handle of a transaction, and say whether it was open. -/
def closeHandle (tx : Nat) : Work σ S Bool := Work.step fun world =>
  (world.openTx.contains tx, { world with openTx := world.openTx.filter (· ≠ tx) })

/-- Send statements through the handle of a transaction. -/
def sendThrough (d : Driver σ ρ) (tx : Nat) (statements : List Statement) :
    Work σ S (Answers ρ) := do
  if ← isClosed tx then return .error .txClosed
  d.sendIn tx statements

/-- Commit through the handle of a transaction, which closes it. -/
def commitThrough (d : Driver σ ρ) (tx : Nat) : Work σ S (Except DriverError Unit) := do
  if ← closeHandle tx then d.commit tx else return .error .txClosed

/-- Roll back through the handle of a transaction, which closes it. -/
def rollbackThrough (d : Driver σ ρ) (tx : Nat) : Work σ S (Except DriverError Unit) := do
  if ← closeHandle tx then d.rollback tx else return .error .txClosed

/-- Drop the last handle of a transaction: one that is still open is let go. -/
def dropHandle (d : Driver σ ρ) (tx : Nat) (world : World σ S) : World σ S :=
  if world.openTx.contains tx then
    d.letGo tx { world with openTx := world.openTx.filter (· ≠ tx) }
  else world

/-- Run `body` with the transaction of a context, or with a new one. A new one is handed to `body`
with a derived context, and its handle is dropped once `body` is left. -/
def withTransaction (d : Driver σ ρ) (ctx : Context)
    (body : Nat → Context → Work σ S (Except Error α)) : Work σ S (Except Error α) :=
  match ctx.tx with
  | some tx => body tx ctx
  | none => do
      match ← within ctx .begin d.begin with
      | .error e => return .error e
      | .ok (.error e) => return .error (.begin e)
      | .ok (.ok tx) =>
          Work.change fun world => { world with openTx := tx :: world.openTx }
          Work.leaving (body tx (ctx.derive tx)) (d.dropHandle tx)

end Driver
end QueryBatch
