import QueryBatch.Batch.Queue
import QueryBatch.Sql.Compact

/-!
# Queries with a declared answer

A `TypedQuery` holds a statement text, its arguments, what it expects back and how to read a row.
Each way to queue it checks that it is meant for that way before anything is queued: first the
expectation, then the decoder, then the arguments, and last whether the batch is still open. A
`Slot` is a place of the caller's store that a query fills.
-/

namespace QueryBatch

/-- Reads a row, or says why it cannot. -/
abbrev Decoder (ρ α : Type) := ρ → Except String α

/-- A place in a store that may hold a value. -/
structure Slot (S α : Type) where
  get : S → Option α
  set : Option α → S → S

/-- Fill a slot. -/
def Slot.fill (slot : Slot S α) (a : α) (store : S) : S := slot.set (some a) store

/-- Move the value out of a slot. -/
def Slot.take (slot : Slot S α) (store : S) : Option α × S :=
  (slot.get store, slot.set none store)

/-- A statement with its arguments, what it expects and how its rows are read. -/
structure TypedQuery (ρ α : Type) where
  text : String
  args : Arguments
  decode : Option (Decoder ρ α)
  expect : Expectation

namespace TypedQuery

variable {σ ρ S α : Type}

/-- A query for exactly one row. -/
def one (text : String) (args : Arguments) (decode : Decoder ρ α) : TypedQuery ρ α :=
  ⟨text, args, some decode, .one⟩

/-- A query for any number of rows. -/
def many (text : String) (args : Arguments) (decode : Decoder ρ α) : TypedQuery ρ α :=
  ⟨text, args, some decode, .many⟩

/-- A statement that must affect exactly one row. -/
def execOneRow (text : String) (args : Arguments) : TypedQuery ρ α :=
  ⟨text, args, none, .execOneRow⟩

/-- The query as shown to a person. -/
def shown (query : TypedQuery ρ α) : String :=
  "TypedQuery \x7b sql: " ++ Text.quoted (Sql.compact query.text) ++ ", args: "
    ++ query.args.shown ++ ", expect: " ++ query.expect.name ++ ", .. \x7d"

/-- The decoder of a query that has to expect `required`. -/
def decoderFor (query : TypedQuery ρ α) (method : Method) (required : Expectation) :
    Except Error (Decoder ρ α) :=
  if query.expect = required then
    match query.decode with
    | some decode => .ok decode
    | none => .error (.missingDecoder query.expect)
  else .error (.expectationMismatch method query.expect)

/-- Check that a query is one for its effect alone. -/
def checkExec (query : TypedQuery ρ α) : Except Error Unit :=
  if query.expect = .exec ∨ query.expect = .execOneRow then
    if query.decode.isSome then .error (.unexpectedDecoder query.expect) else .ok ()
  else .error (.expectationMismatch .queueExec query.expect)

/-- Bind the arguments of a query and write a line about the statement. -/
def statement (query : TypedQuery ρ α) (kind : StatementKind) : Queueing σ ρ S Statement := do
  match query.args.bind query.text with
  | .error e => throw (.arguments e)
  | .ok sql =>
      Queueing.changeWorld fun world => world.note "DEBUG"
        [("message", "queue statement"), ("query", Sql.compact sql.text),
          ("expect", query.expect.message)]
      return ⟨sql, kind⟩

/-- The value of an answer with exactly one row. The row is read before the others are counted. -/
def resolveOne (decode : Decoder ρ α) (answer : Answer ρ) : Except Error α :=
  match answer.rows with
  | [] => .error .noRows
  | row :: rest =>
      match decode row with
      | .error e => .error (.decode e)
      | .ok a => if rest.isEmpty then .ok a else .error .tooManyRows

/-- The values of all rows, in order. -/
def resolveMany (decode : Decoder ρ α) (answer : Answer ρ) : Except Error (List α) :=
  go answer.rows
where
  /-- Read rows up to the first that cannot be read. -/
  go : List ρ → Except Error (List α)
    | [] => .ok []
    | row :: rest =>
        match decode row with
        | .error e => .error (.decode e)
        | .ok a =>
            match go rest with
            | .error e => .error e
            | .ok as => .ok (a :: as)

/-- The number of affected rows, if it is one that is allowed. -/
def resolveExec (exactlyOne : Bool) (answer : Answer ρ) : Except Error Nat :=
  if exactlyOne ∧ answer.rowsAffected ≠ 1 then .error (.rowsAffected answer.rowsAffected)
  else .ok answer.rowsAffected

/-- Queue for exactly one row, which fills a slot. -/
def queue (query : TypedQuery ρ α) (slot : Slot S α) : Queueing σ ρ S Unit := do
  let decode ← Queueing.ofExcept (query.decoderFor .queue .one)
  let statement ← query.statement .query
  Queueing.append ⟨statement, fun answer => slot.fill <$> resolveOne decode answer⟩

/-- Queue for any number of rows, which fill a slot. -/
def queueMany (query : TypedQuery ρ α) (slot : Slot S (List α)) : Queueing σ ρ S Unit := do
  let decode ← Queueing.ofExcept (query.decoderFor .queueMany .many)
  let statement ← query.statement .query
  Queueing.append ⟨statement, fun answer => slot.fill <$> resolveMany decode answer⟩

/-- Queue for the effect; the number of affected rows fills a slot if there is one. -/
def queueExecWith (query : TypedQuery ρ α) (slot : Option (Slot S Nat)) : Queueing σ ρ S Unit := do
  Queueing.ofExcept query.checkExec
  let statement ← query.statement .exec
  let fill (n : Nat) (store : S) : S :=
    match slot with
    | none => store
    | some slot => slot.fill n store
  Queueing.append
    ⟨statement, fun answer => fill <$> resolveExec (query.expect = .execOneRow) answer⟩

/-- Queue for the effect. -/
def queueExec (query : TypedQuery ρ α) : Queueing σ ρ S Unit := query.queueExecWith none

/-- Queue for the effect and keep the number of affected rows. -/
def queueExecInto (query : TypedQuery ρ α) (slot : Slot S Nat) : Queueing σ ρ S Unit :=
  query.queueExecWith (some slot)

end TypedQuery
end QueryBatch
