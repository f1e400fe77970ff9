import QueryBatch.Batch.Error
import QueryBatch.Clock

/-!
# What batches need from a database driver

A driver hands out transactions, known by numbers, and sends lists of statements, inside a
transaction or outside. A transaction is finished by `commit` or `rollback`, or let go unfinished.
Everything else about connections stays behind these calls.
-/

namespace QueryBatch

/-- How a statement is run. -/
inductive StatementKind
  /-- For its rows. -/
  | query
  /-- For its effect. -/
  | exec
  deriving DecidableEq, Repr, Inhabited

/-- A statement ready to be sent. -/
structure Statement where
  sql : Sql
  kind : StatementKind
  deriving Inhabited

/-- What came back for one statement. -/
structure Answer (ρ : Type) where
  rows : List ρ
  rowsAffected : Nat
  deriving Repr, Inhabited

namespace Answer

/-- Rows, and their number. -/
def ofRows (rows : List ρ) : Answer ρ := ⟨rows, rows.length⟩

/-- No rows, and a number of affected rows. -/
def affected (n : Nat) : Answer ρ := ⟨[], n⟩

end Answer

/-- The answers to a list of statements, in its order, or the error that stopped it. -/
abbrev Answers (ρ : Type) := Except DriverError (List (Answer ρ))

/-- A driver with states `σ` and rows `ρ`. Its calls work for every store of a caller. -/
structure Driver (σ ρ : Type) where
  /-- Begin a transaction and answer its number, which no other transaction has. -/
  begin : {S : Type} → Work σ S (Except DriverError Nat)
  /-- Exchange an empty request with the server. -/
  ping : {S : Type} → Work σ S (Except DriverError Unit)
  /-- Send statements in one round trip outside of any transaction. -/
  send : {S : Type} → List Statement → Work σ S (Answers ρ)
  /-- Send statements in one round trip inside a transaction. -/
  sendIn : {S : Type} → Nat → List Statement → Work σ S (Answers ρ)
  /-- Finish a transaction and keep its effects. -/
  commit : {S : Type} → Nat → Work σ S (Except DriverError Unit)
  /-- Finish a transaction and undo its effects. -/
  rollback : {S : Type} → Nat → Work σ S (Except DriverError Unit)
  /-- Let an unfinished transaction go. -/
  letGo : {S : Type} → Nat → World σ S → World σ S

end QueryBatch
