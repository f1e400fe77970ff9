import QueryBatch.Exercise.Page
import QueryBatch.Exercise.Record
import QueryBatch.Sql.Arguments

/-!
# Statements over the exercise library

The search is put together from the fields that a filter has: each adds one predicate, in a fixed
order, and its value under a name of its own. No value becomes part of a text. Every row of the
search carries the number of all matches, so that a page needs no second statement.
-/

namespace QueryBatch
namespace Exercise
namespace Query

/-- A statement text with named placeholders, and the values of its names. -/
structure Request where
  text : String
  args : NamedArgs

/-- Lines, each ended by a line break but the last. -/
def lines (ls : List String) : String := Text.joinWith "\n" ls

/-- One row for each exercise, with its codes gathered into sorted lists. -/
def exerciseData : String := lines
  ["",
   "    SELECT",
   "        e.external_id,",
   "        e.name,",
   "        c.code AS category_code,",
   "        e.description,",
   "        e.instructions,",
   "        COALESCE(",
   "            ARRAY_AGG(DISTINCT et.code) FILTER (WHERE et.code IS NOT NULL),",
   "            ARRAY[]::text[]",
   "        ) AS equipment_types,",
   "        COALESCE(",
   "            ARRAY_AGG(DISTINCT pm.code) FILTER (WHERE pm.code IS NOT NULL),",
   "            ARRAY[]::text[]",
   "        ) AS primary_muscles,",
   "        COALESCE(",
   "            ARRAY_AGG(DISTINCT tag.code) FILTER (WHERE tag.code IS NOT NULL),",
   "            ARRAY[]::text[]",
   "        ) AS tags,",
   "        e.created_at,",
   "        e.updated_at",
   "    FROM repbatch.exercises e",
   "    LEFT JOIN repbatch.exercise_categories c ON e.category_id = c.id",
   "    LEFT JOIN repbatch.exercise_equipment ee ON e.id = ee.exercise_id",
   "    LEFT JOIN repbatch.equipment_types et ON ee.equipment_type_id = et.id",
   "    LEFT JOIN repbatch.exercise_primary_muscles epm ON e.id = epm.exercise_id",
   "    LEFT JOIN repbatch.primary_muscles pm ON epm.primary_muscle_id = pm.id",
   "    LEFT JOIN repbatch.exercise_exercise_tags eet ON e.id = eet.exercise_id",
   "    LEFT JOIN repbatch.exercise_tags tag ON eet.exercise_tag_id = tag.id",
   "    GROUP BY e.id, c.code"]

/-- The order of the rows: by name as a person would sort it, then by identifier, so that pages
never overlap. -/
def orderBy : String := lines
  ["",
   "    ORDER BY exercise_data.name COLLATE repbatch.natsort, exercise_data.external_id"]

/-- A predicate of the search, with the name and the value that it compares with. -/
structure Predicate where
  text : String
  name : String
  value : Param

/-- One predicate for each field that a filter has, in a fixed order. -/
def predicates (filter : Filter) : List Predicate :=
  List.flatten
    [(filter.name.map fun name =>
        ⟨"exercise_data.name ILIKE @name", "name", toParam ("%" ++ name ++ "%")⟩).toList,
     (filter.category.map fun category =>
        ⟨"exercise_data.category_code = @category", "category", toParam category⟩).toList,
     (filter.equipmentTypes.map fun codes =>
        ⟨"exercise_data.equipment_types && @equipmentTypes", "equipmentTypes",
          toParam codes⟩).toList,
     (filter.primaryMuscles.map fun codes =>
        ⟨"exercise_data.primary_muscles && @primaryMuscles", "primaryMuscles",
          toParam codes⟩).toList,
     (filter.tags.map fun codes =>
        ⟨"exercise_data.tags && @tags", "tags", toParam codes⟩).toList]

/-- The clause that holds all predicates, or nothing without predicates. -/
def whereClause (ps : List Predicate) : String :=
  if ps.isEmpty then "" else "\nWHERE " ++ Text.joinWith "\n    AND " (ps.map Predicate.text)

/-- One page of the search. -/
def search (filter : Filter) (page : Page) : Request where
  text :=
    "SELECT *, COUNT(*) OVER() AS total_count FROM (" ++ exerciseData ++ "\n) AS exercise_data"
      ++ whereClause (predicates filter) ++ orderBy ++ "\nLIMIT @limit OFFSET @offset"
  args := .ofList
    ((predicates filter).map (fun p => (p.name, p.value))
      ++ [("limit", .int page.limit), ("offset", .int page.offset)])

/-- The exercise with an identifier. -/
def byId (id : Uuid) : Request where
  text :=
    "SELECT * FROM (" ++ exerciseData ++ "\n) AS exercise_data\nWHERE exercise_data.external_id = @id"
  args := .ofList [("id", toParam id)]

/-- Insert an exercise. Its category is looked up by code, so an unknown one inserts nothing. -/
def insert (id : Uuid) (exercise : NewExercise) : Request where
  text := lines
    ["",
     "        INSERT INTO repbatch.exercises (external_id, name, category_id, description, instructions)",
     "        SELECT @id, @name, c.id, @description, @instructions",
     "        FROM repbatch.exercise_categories c",
     "        WHERE c.code = @category"]
  args := .ofList
    [("id", toParam id), ("name", toParam exercise.name), ("category", toParam exercise.category),
     ("description", toParam exercise.description),
     ("instructions", toParam exercise.instructions)]

/-- The kinds of codes that an exercise is linked to. -/
inductive Link
  | equipmentType
  | primaryMuscle
  | tag
  deriving DecidableEq, Repr

/-- The table that holds the links. -/
def Link.linkTable : Link → String
  | .equipmentType => "repbatch.exercise_equipment"
  | .primaryMuscle => "repbatch.exercise_primary_muscles"
  | .tag => "repbatch.exercise_exercise_tags"

/-- The column of that table for the code. -/
def Link.linkColumn : Link → String
  | .equipmentType => "equipment_type_id"
  | .primaryMuscle => "primary_muscle_id"
  | .tag => "exercise_tag_id"

/-- The table that holds the codes. -/
def Link.lookupTable : Link → String
  | .equipmentType => "repbatch.equipment_types"
  | .primaryMuscle => "repbatch.primary_muscles"
  | .tag => "repbatch.exercise_tags"

/-- Link an exercise to a code. An unknown code links nothing. -/
def link (kind : Link) (id : Uuid) (code : String) : Request where
  text := lines
    ["",
     "        INSERT INTO " ++ kind.linkTable ++ " (exercise_id, " ++ kind.linkColumn ++ ")",
     "        SELECT e.id, l.id",
     "        FROM repbatch.exercises e, " ++ kind.lookupTable ++ " l",
     "        WHERE e.external_id = @id AND l.code = @code"]
  args := .ofList [("id", toParam id), ("code", toParam code)]

end Query
end Exercise
end QueryBatch
