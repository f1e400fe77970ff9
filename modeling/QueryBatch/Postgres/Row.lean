import QueryBatch.Batch.TypedQuery
import QueryBatch.Timestamp

/-!
# Values on the wire

Parameters are sent with the name of their type, so that nothing has to be prepared before a batch.
A result row has named and typed columns. A cell is read by the name of its column and as one type;
it is unreadable if the column has another type, or if the cell is null and null is not wanted.
-/

namespace QueryBatch
namespace Postgres

/-- The name of the type that a parameter is sent as. Null has none of its own. -/
def wireType : Param → String
  | .null => "unknown"
  | .bool _ => "bool"
  | .int _ => "int8"
  | .float _ => "float8"
  | .text _ => "text"
  | .texts _ => "text[]"
  | .uuid _ => "uuid"
  | .json _ => "jsonb"

/-- The types of columns. -/
inductive ColumnType
  | bool
  | int4
  | int8
  | text
  | texts
  | uuid
  | timestamp
  deriving DecidableEq, Repr, Inhabited

/-- The value of a cell. -/
inductive Cell
  | null
  | bool (b : Bool)
  | int (n : Int)
  | text (s : String)
  | texts (ss : List String)
  | uuid (u : Uuid)
  /-- Microseconds since the start of the year 2000. -/
  | timestamp (microseconds : Int)
  deriving DecidableEq, Repr, Inhabited

/-- The name and type of a column. -/
structure Column where
  name : String
  type : ColumnType
  deriving DecidableEq, Repr, Inhabited

/-- A result row. -/
structure Row where
  cells : List (Column × Cell)
  deriving Repr, Inhabited

/-- Why a cell cannot be read. -/
inductive CellError
  | missing (column : String)
  | unreadable (index : Nat)
  deriving DecidableEq, Repr

/-- The wording of such an error. -/
def CellError.message : CellError → String
  | .missing column => "invalid column \x60" ++ column ++ "\x60"
  | .unreadable index => "error deserializing column " ++ toString index

namespace Row

/-- The position of a column by its name, or else by its name in another case. -/
def indexOf? (row : Row) (name : String) : Option Nat :=
  match row.cells.findIdx? fun (column, _) => column.name = name with
  | some i => some i
  | none => row.cells.findIdx? fun (column, _) => column.name.toLower = name.toLower

/-- Read the cell of a column. -/
def read (row : Row) (name : String) (f : ColumnType → Cell → Option α) : Except CellError α :=
  match row.indexOf? name with
  | none => .error (.missing name)
  | some i =>
      match row.cells[i]?.bind fun (column, cell) => f column.type cell with
      | some a => .ok a
      | none => .error (.unreadable i)

/-- Read a text. -/
def text (row : Row) (name : String) : Except CellError String :=
  row.read name fun
    | .text, .text s => some s
    | _, _ => none

/-- Read a text that may be null. -/
def text? (row : Row) (name : String) : Except CellError (Option String) :=
  row.read name fun
    | .text, .text s => some (some s)
    | .text, .null => some none
    | _, _ => none

/-- Read a list of texts. -/
def texts (row : Row) (name : String) : Except CellError (List String) :=
  row.read name fun
    | .texts, .texts ss => some ss
    | _, _ => none

/-- Read an identifier. -/
def uuid (row : Row) (name : String) : Except CellError Uuid :=
  row.read name fun
    | .uuid, .uuid u => some u
    | _, _ => none

/-- Read a 64-bit integer. -/
def int8 (row : Row) (name : String) : Except CellError Int :=
  row.read name fun
    | .int8, .int n => some n
    | _, _ => none

/-- Read a point in time. -/
def timestamp (row : Row) (name : String) : Except CellError Timestamp :=
  row.read name fun
    | .timestamp, .timestamp us => Timestamp.ofMicroseconds? us
    | _, _ => none

/-- A way of reading rows as a decoder. -/
def decoder (f : Row → Except CellError α) : Decoder Row α := fun row =>
  match f row with
  | .ok a => .ok a
  | .error e => .error e.message

end Row
end Postgres
end QueryBatch
