import QueryBatch.Postgres.Network

/-!
# Sessions of a server

What a server remembers of one connection: the effects that are committed, and the transaction
block that is open, if any. A statement outside of a block is committed by itself. A statement that
fails in a block undoes the effects of the block and lets it refuse everything until it ends; a
commit then ends it as a rollback, without an error.

Blocks are opened and ended by scripts alone. A statement, and a script of any other text, is one
effect.
-/

namespace QueryBatch
namespace Postgres

/-- The transaction block of a session, with its effects in order. -/
inductive Block (ε : Type)
  | none
  | active (effects : List ε)
  | failed
  deriving DecidableEq, Repr, Inhabited

/-- The session of a connection. -/
structure Session (ε : Type) where
  block : Block ε := .none
  /-- The effects that will not be undone, in order. -/
  committed : List ε := []
  deriving DecidableEq, Repr, Inhabited

/-- Whether a request is the end of a block. -/
def Request.endsBlock : Request → Bool
  | .script text => text = "COMMIT" ∨ text = "ROLLBACK"
  | .statement _ => false

namespace Session

variable {ε : Type}

/-- Whether a block is open. -/
def inBlock (s : Session ε) : Bool :=
  match s.block with
  | .none => false
  | _ => true

/-- Whether everything but the end of the block is refused. -/
def refuses (s : Session ε) : Bool :=
  match s.block with
  | .failed => true
  | _ => false

/-- Open a block, unless one is open. -/
def begin (s : Session ε) : Session ε :=
  match s.block with
  | .none => { s with block := .active [] }
  | _ => s

/-- End the block and keep its effects, if it has not failed. -/
def commit (s : Session ε) : Session ε :=
  match s.block with
  | .active effects => { block := .none, committed := s.committed ++ effects }
  | _ => { s with block := .none }

/-- End the block and undo its effects. -/
def rollback (s : Session ε) : Session ε := { s with block := .none }

/-- A statement succeeds. -/
def succeed (effect : ε) (s : Session ε) : Session ε :=
  match s.block with
  | .none => { s with committed := s.committed ++ [effect] }
  | .active effects => { s with block := .active (effects ++ [effect]) }
  | .failed => s

/-- A statement fails. -/
def fail (s : Session ε) : Session ε :=
  match s.block with
  | .none => s
  | _ => { s with block := .failed }

/-- The session after a script succeeded. -/
def afterScript (text : String) (session : Session String) : Session String :=
  match text with
  | "BEGIN" => session.begin
  | "COMMIT" => session.commit
  | "ROLLBACK" => session.rollback
  | ";" => session
  | text => session.succeed text

/-- The session after a request succeeded. -/
def afterSuccess (request : Request) (session : Session String) : Session String :=
  match request with
  | .script text => session.afterScript text
  | .statement sql => session.succeed sql.text

/-- The session after a request failed. The end of a block ends it even if it fails. -/
def afterFailure (request : Request) (session : Session String) : Session String :=
  if request.endsBlock then session.rollback else session.fail

end Session
end Postgres
end QueryBatch
