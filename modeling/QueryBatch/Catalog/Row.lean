import QueryBatch.Exercise.Record
import QueryBatch.Postgres.Row

/-!
# Rows of exercises

How an exercise is read from a row of the exercise queries, and a match of a search, which tells in
every row the number of matches over all pages.
-/

namespace QueryBatch
namespace Catalog

open Postgres (Row CellError)

/-- An exercise that was found, and how many there are. -/
structure Match where
  exercise : Exercise
  total : Int
  deriving Inhabited

/-- Read an exercise. -/
def readExercise (row : Row) : Except CellError Exercise := do
  return {
    id := ← row.uuid "external_id"
    name := ← row.text "name"
    category := ← row.text "category_code"
    description := ← row.text? "description"
    instructions := ← row.texts "instructions"
    equipmentTypes := ← row.texts "equipment_types"
    primaryMuscles := ← row.texts "primary_muscles"
    tags := ← row.texts "tags"
    createdAt := ← row.timestamp "created_at"
    updatedAt := ← row.timestamp "updated_at" }

/-- Read a match of a search. -/
def readMatch (row : Row) : Except CellError Match := do
  return { exercise := ← readExercise row, total := ← row.int8 "total_count" }

end Catalog
end QueryBatch
