import QueryBatch.Batch.Driver

/-!
# Batches

A batch is a list of statements, each with what becomes of its answer. Resolving a batch first
checks and decodes every answer and only then changes the caller's store, so a batch that fails
leaves every destination as it was.
-/

namespace QueryBatch

/-- A queued statement, and what its answer does to a store if it is as expected. -/
structure Entry (ρ S : Type) where
  statement : Statement
  resolve : Answer ρ → Except Error (S → S)

/-- Statements for one round trip, in the order of queueing. -/
structure Batch (ρ S : Type) where
  entries : List (Entry ρ S)
  sent : Bool

namespace Batch

variable {ρ S : Type}

/-- No statements. -/
def empty : Batch ρ S := ⟨[], false⟩

/-- Append a statement, unless the batch was sent. -/
def queue (batch : Batch ρ S) (entry : Entry ρ S) : Except Error (Batch ρ S) :=
  if batch.sent then .error .batchSent else .ok { batch with entries := batch.entries ++ [entry] }

/-- The number of statements. -/
def size (batch : Batch ρ S) : Nat := batch.entries.length

/-- Whether there are no statements. -/
def isEmpty (batch : Batch ρ S) : Bool := batch.entries.isEmpty

/-- The statements in order. -/
def statements (batch : Batch ρ S) : List Statement := batch.entries.map Entry.statement

/-- Refuse further statements. -/
def close (batch : Batch ρ S) : Batch ρ S := { batch with sent := true }

/-- The batch as shown to a person. -/
def shown (batch : Batch ρ S) : String :=
  "Batch \x7b statements: " ++ toString batch.size ++ ", sent: "
    ++ (if batch.sent then "true" else "false") ++ " \x7d"

/-- Check answers against entries from a position on, up to the first that is not as expected, and
gather what they do to a store. -/
def check : Nat → List (Entry ρ S) → List (Answer ρ) → Except Error (S → S)
  | index, entry :: entries, answer :: answers =>
      match entry.resolve answer with
      | .error e => .error (.statement index e)
      | .ok change =>
          match check (index + 1) entries answers with
          | .error e => .error e
          | .ok rest => .ok fun store => rest (change store)
  | _, _, _ => .ok id

/-- What the answers of a batch do to a store, if there is one for each statement and all are as
expected. -/
def resolve (batch : Batch ρ S) (answers : List (Answer ρ)) : Except Error (S → S) :=
  if answers.length = batch.entries.length then check 0 batch.entries answers
  else .error (.resultCount batch.entries.length answers.length)

end Batch

/-- Filling a batch: an action on the batch and on what the caller can see, which takes no time. -/
abbrev Queueing (σ ρ S α : Type) := ExceptT Error (StateM (Batch ρ S × World σ S)) α

namespace Queueing

variable {σ ρ S α : Type}

/-- Append a statement to the batch. -/
def append (entry : Entry ρ S) : Queueing σ ρ S Unit := do
  let (batch, world) ← get
  match batch.queue entry with
  | .ok batch => set (batch, world)
  | .error e => throw e

/-- An answer as a step of queueing. -/
def ofExcept {β : Type} : Except Error β → Queueing σ ρ S β
  | .ok b => pure b
  | .error e => throw e

/-- The batch so far. -/
def batch : Queueing σ ρ S (Batch ρ S) := do return (← get).1

/-- Change what the caller can see. -/
def changeWorld (f : World σ S → World σ S) : Queueing σ ρ S Unit :=
  modify fun (batch, world) => (batch, f world)

/-- Fill a new batch as a piece of work, and answer it closed for further statements. -/
def fill (q : Queueing σ ρ S Unit) : Work σ S (Except Error (Batch ρ S)) :=
  Work.step fun world =>
    match StateT.run (ExceptT.run q) (Batch.empty, world) with
    | (.ok (), batch, world) => (.ok batch.close, world)
    | (.error e, _, world) => (.error e, world)

end Queueing
end QueryBatch
