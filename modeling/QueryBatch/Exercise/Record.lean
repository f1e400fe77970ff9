import QueryBatch.Json.Record
import QueryBatch.Timestamp
import QueryBatch.Uuid

/-!
# Records of the exercise library

An `Exercise` as it is stored, a `Filter` to search by, and a `NewExercise` to add. Each is read
from and written to a JSON object. The three differ in which fields may be absent: none of the
lists of an exercise, every field of a filter (absence is no constraint, an empty list is one), and
all but name and category of a new exercise (absence is emptiness).
-/

namespace QueryBatch

open Json (ofOption strings)
open Json.Reader (Shape readStrings requiredField optionalField defaultField)

/-- A training movement of the library. -/
structure Exercise where
  id : Uuid
  name : String
  category : String
  description : Option String
  instructions : List String
  equipmentTypes : List String
  primaryMuscles : List String
  tags : List String
  createdAt : Timestamp
  updatedAt : Timestamp
  deriving DecidableEq, Inhabited

/-- What to search the library by. -/
structure Filter where
  /-- A part of the name, whatever the case of its letters. -/
  name : Option String := none
  /-- The code of the category. -/
  category : Option String := none
  equipmentTypes : Option (List String) := none
  primaryMuscles : Option (List String) := none
  tags : Option (List String) := none
  deriving DecidableEq, Inhabited

/-- What is needed to add an exercise. -/
structure NewExercise where
  name : String
  category : String
  description : Option String := none
  instructions : List String := []
  equipmentTypes : List String := []
  primaryMuscles : List String := []
  tags : List String := []
  deriving DecidableEq, Inhabited

namespace Uuid

/-- Read an identifier. -/
def reader : Json.Reader Uuid :=
  Json.Reader.stringAs "a UUID string" fun s =>
    match parse s with
    | .ok u => .ok u
    | .error e => .error ("UUID parsing failed: " ++ e.message)

end Uuid

namespace Timestamp

/-- Read a timestamp. -/
def reader : Json.Reader Timestamp :=
  Json.Reader.stringAs "an RFC3339-formatted `OffsetDateTime`" fun s =>
    match parse s with
    | .ok t => .ok t
    | .error e => .error e.message

end Timestamp

namespace Filter

/-- Whether the filter constrains nothing. -/
def isEmpty (f : Filter) : Bool := f = {}

/-- The filter as a record; absent fields are null. -/
def toJson (f : Filter) : Json :=
  .object
    [("name", ofOption .string f.name), ("category", ofOption .string f.category),
      ("equipmentTypes", ofOption strings f.equipmentTypes),
      ("primaryMuscles", ofOption strings f.primaryMuscles), ("tags", ofOption strings f.tags)]

/-- A filter that is being read; the outer option says whether a field was there. -/
structure Draft where
  name : Option (Option String) := none
  category : Option (Option String) := none
  equipmentTypes : Option (Option (List String)) := none
  primaryMuscles : Option (Option (List String)) := none
  tags : Option (Option (List String)) := none

/-- The fields of a filter. -/
def shape : Shape Draft where
  name := "ExerciseFilter"
  empty := {}
  fields :=
    [optionalField "name" Draft.name (fun a d => { d with name := some a }) Json.Reader.string,
     optionalField "category" Draft.category (fun a d => { d with category := some a })
       Json.Reader.string,
     optionalField "equipmentTypes" Draft.equipmentTypes
       (fun a d => { d with equipmentTypes := some a }) readStrings,
     optionalField "primaryMuscles" Draft.primaryMuscles
       (fun a d => { d with primaryMuscles := some a }) readStrings,
     optionalField "tags" Draft.tags (fun a d => { d with tags := some a }) readStrings]

/-- Read a filter. -/
def reader : Json.Reader Filter := do
  let d ← Json.Reader.record shape
  return ⟨d.name.getD none, d.category.getD none, d.equipmentTypes.getD none,
    d.primaryMuscles.getD none, d.tags.getD none⟩

end Filter

namespace NewExercise

/-- The exercise to add as a record. -/
def toJson (e : NewExercise) : Json :=
  .object
    [("name", .string e.name), ("category", .string e.category),
      ("description", ofOption .string e.description), ("instructions", strings e.instructions),
      ("equipmentTypes", strings e.equipmentTypes), ("primaryMuscles", strings e.primaryMuscles),
      ("tags", strings e.tags)]

/-- An exercise to add that is being read. -/
structure Draft where
  name : Option String := none
  category : Option String := none
  description : Option (Option String) := none
  instructions : Option (List String) := none
  equipmentTypes : Option (List String) := none
  primaryMuscles : Option (List String) := none
  tags : Option (List String) := none

/-- The fields of an exercise to add. -/
def shape : Shape Draft where
  name := "NewExercise"
  empty := {}
  fields :=
    [requiredField "name" Draft.name (fun a d => { d with name := some a }) Json.Reader.string,
     requiredField "category" Draft.category (fun a d => { d with category := some a })
       Json.Reader.string,
     defaultField "description" Draft.description (fun a d => { d with description := some a })
       none (Json.Reader.optional Json.Reader.string),
     defaultField "instructions" Draft.instructions
       (fun a d => { d with instructions := some a }) [] readStrings,
     defaultField "equipmentTypes" Draft.equipmentTypes
       (fun a d => { d with equipmentTypes := some a }) [] readStrings,
     defaultField "primaryMuscles" Draft.primaryMuscles
       (fun a d => { d with primaryMuscles := some a }) [] readStrings,
     defaultField "tags" Draft.tags (fun a d => { d with tags := some a }) [] readStrings]

/-- Read an exercise to add. -/
def reader : Json.Reader NewExercise := do
  let d ← Json.Reader.record shape
  return ⟨d.name.getD "", d.category.getD "", d.description.getD none, d.instructions.getD [],
    d.equipmentTypes.getD [], d.primaryMuscles.getD [], d.tags.getD []⟩

end NewExercise

namespace Exercise

/-- Why an exercise cannot be written. -/
inductive Unwritable
  /-- The form of RFC 3339 has no room for a part of a timestamp. -/
  | part (name : String)

/-- The wording of a refusal to write. -/
def Unwritable.message : Unwritable → String
  | .part name => "The " ++ name ++ " component cannot be formatted into the requested format."

/-- The exercise as a record, if RFC 3339 has a form for its timestamps. -/
def toJson (e : Exercise) : Except Unwritable Json :=
  match e.createdAt.text, e.updatedAt.text with
  | .ok createdAt, .ok updatedAt =>
      .ok (.object
        [("id", .string e.id.text), ("name", .string e.name), ("category", .string e.category),
          ("description", ofOption .string e.description),
          ("instructions", strings e.instructions), ("equipmentTypes", strings e.equipmentTypes),
          ("primaryMuscles", strings e.primaryMuscles), ("tags", strings e.tags),
          ("createdAt", .string createdAt), ("updatedAt", .string updatedAt)])
  | .error part, _ => .error (.part part)
  | _, .error part => .error (.part part)

/-- An exercise that is being read. -/
structure Draft where
  id : Option Uuid := none
  name : Option String := none
  category : Option String := none
  description : Option (Option String) := none
  instructions : Option (List String) := none
  equipmentTypes : Option (List String) := none
  primaryMuscles : Option (List String) := none
  tags : Option (List String) := none
  createdAt : Option Timestamp := none
  updatedAt : Option Timestamp := none

/-- The fields of an exercise. -/
def shape : Shape Draft where
  name := "Exercise"
  empty := {}
  fields :=
    [requiredField "id" Draft.id (fun a d => { d with id := some a }) Uuid.reader,
     requiredField "name" Draft.name (fun a d => { d with name := some a }) Json.Reader.string,
     requiredField "category" Draft.category (fun a d => { d with category := some a })
       Json.Reader.string,
     optionalField "description" Draft.description
       (fun a d => { d with description := some a }) Json.Reader.string,
     requiredField "instructions" Draft.instructions
       (fun a d => { d with instructions := some a }) readStrings,
     requiredField "equipmentTypes" Draft.equipmentTypes
       (fun a d => { d with equipmentTypes := some a }) readStrings,
     requiredField "primaryMuscles" Draft.primaryMuscles
       (fun a d => { d with primaryMuscles := some a }) readStrings,
     requiredField "tags" Draft.tags (fun a d => { d with tags := some a }) readStrings,
     requiredField "createdAt" Draft.createdAt (fun a d => { d with createdAt := some a })
       Timestamp.reader,
     requiredField "updatedAt" Draft.updatedAt (fun a d => { d with updatedAt := some a })
       Timestamp.reader]

/-- Read an exercise. -/
def reader : Json.Reader Exercise := do
  let d ← Json.Reader.record shape
  return ⟨d.id.getD default, d.name.getD "", d.category.getD "", d.description.getD none,
    d.instructions.getD [], d.equipmentTypes.getD [], d.primaryMuscles.getD [], d.tags.getD [],
    d.createdAt.getD default, d.updatedAt.getD default⟩

end Exercise
end QueryBatch
