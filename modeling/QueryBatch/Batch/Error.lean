import QueryBatch.Sql.Statement

/-!
# Errors of batches

Causes that keep a batch from being queued, sent or resolved, and their wording. `Error.root`
looks through the tags that the way of an error adds to it.
-/

namespace QueryBatch

/-- What a query declares about its answer. -/
inductive Expectation
  /-- Any number of rows. -/
  | many
  /-- Exactly one row. -/
  | one
  /-- No rows. -/
  | exec
  /-- No rows, and exactly one affected row. -/
  | execOneRow
  deriving DecidableEq, Repr, Inhabited

/-- The wording of an expectation. -/
def Expectation.message : Expectation → String
  | .many => "many rows"
  | .one => "one row"
  | .exec => "no rows"
  | .execOneRow => "one affected row"

/-- The name of an expectation. -/
def Expectation.name : Expectation → String
  | .many => "Many"
  | .one => "One"
  | .exec => "Exec"
  | .execOneRow => "ExecOneRow"

/-- What a pool or a transaction reports. -/
inductive DriverError
  /-- The transaction was finished before. -/
  | txClosed
  /-- The server refused a statement of a batch. -/
  | statement (index : Nat) (source : String)
  /-- No connection, or none any more. -/
  | connection (source : String)
  deriving DecidableEq, Repr, Inhabited

/-- The wording of a driver error. -/
def DriverError.message : DriverError → String
  | .txClosed => "transaction is closed"
  | .statement index source => "statement " ++ toString index ++ ": " ++ source
  | .connection source => source

/-- What a caller waits for when a deadline passes. -/
inductive Phase
  | begin
  | send
  | commit
  | rollback
  deriving DecidableEq, Repr

/-- The wording of a phase. -/
def Phase.message : Phase → String
  | .begin => "begin transaction"
  | .send => "send batch"
  | .commit => "commit transaction"
  | .rollback => "roll back transaction"

/-- The ways to queue a query. -/
inductive Method
  | queue
  | queueMany
  | queueExec
  deriving DecidableEq, Repr

/-- The name of a way to queue. -/
def Method.message : Method → String
  | .queue => "queue"
  | .queueMany => "queue_many"
  | .queueExec => "queue_exec"

/-- What the query of a way to queue has to expect. -/
def Method.required : Method → String
  | .queue => "one row"
  | .queueMany => "many rows"
  | .queueExec => "no rows or one affected row"

/-- Why a batch failed. -/
inductive Error
  /-- A query was queued in a way that its expectation does not allow. -/
  | expectationMismatch (method : Method) (actual : Expectation)
  | missingDecoder (expect : Expectation)
  | unexpectedDecoder (expect : Expectation)
  /-- A placeholder has no value. -/
  | arguments (source : Sql.MissingArgument)
  | batchSent
  | noRows
  | tooManyRows
  | rowsAffected (n : Nat)
  | resultCount (expected actual : Nat)
  | decode (source : String)
  /-- The result of one statement is not what its query expects. -/
  | statement (index : Nat) (source : Error)
  | begin (source : DriverError)
  | send (source : DriverError)
  | commit (source : DriverError)
  /-- A failure, and the failure of the rollback that followed it. -/
  | rollback (cause : Error) (source : DriverError)
  | deadlineExceeded (phase : Phase)
  /-- An error of the caller. -/
  | other (message : String)
  deriving DecidableEq, Repr, Inhabited

namespace Error

/-- The wording of an error. -/
def message : Error → String
  | .expectationMismatch method actual =>
      method.message ++ " requires a query expecting " ++ method.required ++ ", but it expects "
        ++ actual.message
  | .missingDecoder expect => "a query expecting " ++ expect.message ++ " needs a row decoder"
  | .unexpectedDecoder expect =>
      "a query expecting " ++ expect.message ++ " must not have a row decoder"
  | .arguments source => "bind arguments: " ++ source.message
  | .batchSent => "batch has already been sent"
  | .noRows => "no rows in result set"
  | .tooManyRows => "too many rows"
  | .rowsAffected n => "expected exactly one affected row, got " ++ toString n
  | .resultCount expected actual =>
      "expected " ++ toString expected ++ " results, got " ++ toString actual
  | .decode source => "decode row: " ++ source
  | .statement index source => "statement " ++ toString index ++ ": " ++ source.message
  | .begin source => "begin transaction: " ++ source.message
  | .send source => "send batch: " ++ source.message
  | .commit source => "commit transaction: " ++ source.message
  | .rollback cause source => cause.message ++ "; rollback transaction: " ++ source.message
  | .deadlineExceeded phase => "deadline exceeded while waiting to " ++ phase.message
  | .other message => message

/-- The failure that started it all. -/
def root : Error → Error
  | .statement _ source => source.root
  | .rollback cause _ => cause.root
  | e => e

end Error
end QueryBatch
