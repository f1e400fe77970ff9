import QueryBatch.Sql.Arguments
import QueryBatch.Sql.Scanner

/-!
# Statement texts with numbered placeholders

A `Sql` value is a statement text with placeholders `$1`, `$2`, and so on, and the values bound to
them. It is built piece by piece, or by binding arguments to a text with named placeholders.
-/

namespace QueryBatch

/-- A statement text with its numbered values. -/
structure Sql where
  text : String
  params : List Param
  /-- The number of the last placeholder handed out. -/
  paramIndex : Nat
  deriving Inhabited

namespace Sql

/-- Nothing yet. -/
def empty : Sql := ⟨"", [], 0⟩

/-- A finished text with the values of its placeholders. -/
def positional (text : String) (params : List Param) : Sql := ⟨text, params, params.length⟩

/-- Append a text as it is. -/
def appendSyntax (sql : Sql) (text : String) : Sql := { sql with text := sql.text ++ text }

/-- An identifier between double quotes, those inside doubled. -/
def quoteIdentifier (cs : List Char) : List Char :=
  '"' :: (cs.flatMap (fun c => if c = '"' then ['"', '"'] else [c]) ++ ['"'])

/-- Append a quoted identifier. -/
def appendIdentifier (sql : Sql) (name : String) : Sql :=
  sql.appendSyntax (String.ofList (quoteIdentifier name.toList))

/-- Append the next placeholder and bind a value to it. -/
def appendParam (sql : Sql) (value : Param) : Sql :=
  { text := sql.text ++ "$" ++ toString (sql.paramIndex + 1)
    params := sql.params ++ [value]
    paramIndex := sql.paramIndex + 1 }

/-- No value was given for a placeholder. -/
structure MissingArgument where
  name : String
  deriving DecidableEq, Repr

/-- The wording of a missing value. -/
def MissingArgument.message (e : MissingArgument) : String :=
  "no value bound for named argument '@" ++ e.name ++ "'"

/-- How far a text was bound. -/
structure Cursor where
  /-- The place to look at next. -/
  index : Nat
  /-- The place up to which the text was copied. -/
  copied : Nat
  sql : Sql
  /-- The numbers of the names so far, in order of appearance. -/
  positions : List (String × Nat)

namespace Cursor

/-- Nothing was looked at yet. -/
def start : Cursor := ⟨0, 0, empty, []⟩

/-- Go on behind the piece that starts with the octet `b`. The text before a placeholder is copied
only when the placeholder is met, and a name that was met before keeps its number. -/
def step (text : String) (args : NamedArgs) (cursor : Cursor) (b : UInt8) :
    Except MissingArgument Cursor :=
  match Scanner.piece text cursor.index b with
  | .copied stop => .ok { cursor with index := stop }
  | .placeholder stop =>
      let name := Scanner.slice text (cursor.index + 1) stop
      let sql := cursor.sql.appendSyntax (Scanner.slice text cursor.copied cursor.index)
      match cursor.positions.lookup name with
      | some k =>
          .ok { cursor with
            index := stop, copied := stop, sql := sql.appendSyntax ("$" ++ toString k) }
      | none =>
          match args.get? name with
          | some value =>
              let sql := sql.appendParam value
              .ok ⟨stop, stop, sql, cursor.positions ++ [(name, sql.paramIndex)]⟩
          | none => .error ⟨name⟩

/-- A step ends where the piece ends. -/
theorem index_step {text : String} {args : NamedArgs} {cursor next : Cursor} {b : UInt8}
    (h : step text args cursor b = .ok next) :
    next.index = (Scanner.piece text cursor.index b).stop := by
  unfold step at h
  split at h
  case h_1 stop hpiece =>
    cases h
    rw [hpiece]
    rfl
  case h_2 stop hpiece =>
    rw [hpiece]
    dsimp only at h
    split at h
    · cases h
      rfl
    · split at h
      · cases h
        rfl
      · cases h

/-- Bind the rest of a text. -/
def run (text : String) (args : NamedArgs) (cursor : Cursor) : Except MissingArgument Sql :=
  match h : Scanner.octet? text cursor.index with
  | none => .ok (cursor.sql.appendSyntax (Scanner.slice text cursor.copied text.utf8ByteSize))
  | some b =>
      match hstep : step text args cursor b with
      | .ok next => run text args next
      | .error e => .error e
termination_by text.utf8ByteSize - cursor.index
decreasing_by
  have hbound := Scanner.lt_of_octet? h
  have hprogress := Scanner.lt_stop_piece h
  rw [← index_step hstep] at hprogress
  omega

end Cursor

/-- Replace the placeholders of a text by the numbers of their values. -/
def bindNamed (text : String) (args : NamedArgs) : Except MissingArgument Sql :=
  Cursor.run text args Cursor.start

end Sql

/-- The statement for a text and its arguments. -/
def Arguments.bind (args : Arguments) (text : String) : Except Sql.MissingArgument Sql :=
  match args with
  | .none => .ok (Sql.positional text [])
  | .positional params => .ok (Sql.positional text params)
  | .named args => Sql.bindNamed text args

end QueryBatch
