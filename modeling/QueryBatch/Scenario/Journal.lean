import QueryBatch.Batch.Health
import QueryBatch.Batch.TypedQuery
import QueryBatch.Catalog.Error

/-!
# Journal and slots of a scenario

While a scenario runs it keeps a journal of what the driver was asked for and how each step ended,
and the slots that its queries fill.
-/

namespace QueryBatch
namespace Scenario

/-- A part of a journal line. -/
inductive Part
  | json (v : Json)
  | statements (ss : List Statement)
  | error (e : Error)
  | driver (e : DriverError)
  | health (e : HealthError)
  | catalog (e : Catalog.Error)

/-- What a journal line tells of. -/
inductive Subject
  /-- The end of a step. -/
  | step (name : String)
  /-- The start of the body of a step. -/
  | enter (name : String)
  /-- Something in a queue callback. -/
  | queue (name : String)

/-- A line of the journal. -/
inductive Line (ε : Type)
  | event (event : ε)
  | entry (time : Nat) (subject : Subject) (parts : List (String × Part))

/-- Named values, of which some are filled, in order of their creation. -/
abbrev Shelf (α : Type) := List (String × Option α)

namespace Shelf

/-- Add an empty value, unless the name is there. -/
def ensure (name : String) (shelf : Shelf α) : Shelf α :=
  if (shelf.lookup name).isSome then shelf else shelf ++ [(name, none)]

/-- The value under a name. -/
def get (name : String) (shelf : Shelf α) : Option α := (shelf.lookup name).join

/-- Replace the value under a name. -/
def put (name : String) (value : Option α) (shelf : Shelf α) : Shelf α :=
  (ensure name shelf).map fun pair => if pair.1 = name then (name, value) else pair

end Shelf

/-- The slots of a scenario: for one row, for many rows, for a number of affected rows. -/
structure Slots where
  one : Shelf Json := []
  many : Shelf (List Json) := []
  affected : Shelf Nat := []
  deriving Inhabited

/-- The kinds of slots. -/
inductive SlotKind
  | one
  | many
  | affected
  deriving DecidableEq, Repr

/-- What a scenario keeps: its slots, and its journal with the newest line first. -/
structure Notebook (ε : Type) where
  slots : Slots := {}
  lines : List (Line ε) := []

namespace Notebook

variable {ε : Type}

/-- Change the slots. -/
def changeSlots (f : Slots → Slots) (book : Notebook ε) : Notebook ε :=
  { book with slots := f book.slots }

/-- Create a slot, unless it is there. -/
def ensureSlot (kind : SlotKind) (name : String) : Notebook ε → Notebook ε :=
  changeSlots fun slots =>
    match kind with
    | .one => { slots with one := slots.one.ensure name }
    | .many => { slots with many := slots.many.ensure name }
    | .affected => { slots with affected := slots.affected.ensure name }

/-- The slot of a name for one row. -/
def oneSlot (name : String) : Slot (Notebook ε) Json where
  get book := book.slots.one.get name
  set value := changeSlots fun slots => { slots with one := slots.one.put name value }

/-- The slot of a name for many rows. -/
def manySlot (name : String) : Slot (Notebook ε) (List Json) where
  get book := book.slots.many.get name
  set value := changeSlots fun slots => { slots with many := slots.many.put name value }

/-- The slot of a name for a number of affected rows. -/
def affectedSlot (name : String) : Slot (Notebook ε) Nat where
  get book := book.slots.affected.get name
  set value := changeSlots fun slots => { slots with affected := slots.affected.put name value }

/-- Add a line. -/
def write (line : Line ε) (book : Notebook ε) : Notebook ε :=
  { book with lines := line :: book.lines }

/-- Add events, the newest first. -/
def writeEvents (events : List ε) (book : Notebook ε) : Notebook ε :=
  { book with lines := events.map Line.event ++ book.lines }

end Notebook

/-- A slot as shown to a person. -/
def shownSlot (shown : α → String) (value : Option α) : String :=
  match value with
  | none => "Slot(None)"
  | some a => "Slot(Some(" ++ shown a ++ "))"

/-- A list of values as shown to a person. -/
def shownList (values : List Json) : String := Param.bracketed (values.map Json.shown)

end Scenario
end QueryBatch
