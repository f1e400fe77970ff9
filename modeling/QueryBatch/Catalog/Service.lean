import QueryBatch.Batch.Health
import QueryBatch.Batch.Run
import QueryBatch.Batch.TypedQuery
import QueryBatch.Catalog.Error
import QueryBatch.Catalog.Row
import QueryBatch.Exercise.Query

/-!
# The exercise catalogue

Searching, fetching and creating exercises over a driver. An exercise is created with its links in
one batch inside a transaction; each of its statements inserts nothing if a code is unknown, so the
first that affected no row names the code to blame.
-/

namespace QueryBatch
namespace Catalog

open Exercise (Query.Request)
open Exercise.Query

/-- One page of a search. -/
structure Matches where
  exercises : List Exercise
  /-- The number of matches over all pages. -/
  total : Int
  deriving Inhabited

/-- The matches of a page. The number of all of them stands in every row, so an empty page does not
know it and tells zero. -/
def Matches.ofRows (rows : List Match) : Matches :=
  { exercises := rows.map Match.exercise, total := (rows.head?.map Match.total).getD 0 }

/-- The matches as a record. -/
def Matches.toJson (found : Matches) : Except Exercise.Unwritable Json := do
  return .object
    [("exercises", .array (← found.exercises.mapM Exercise.toJson)), ("total", .int found.total)]

/-- The slot of a store that holds nothing else. -/
def soleSlot : Slot (Option α) α where
  get store := store
  set value _ := value

/-- A statement that creates a part of an exercise, and the code that it looks up. -/
structure Insertion where
  kind : CodeKind
  code : String
  request : Request

/-- The list without repetitions, in the order of first occurrence. -/
def distinct (codes : List String) : List String :=
  codes.foldl (fun seen code => if seen.contains code then seen else seen ++ [code]) []

/-- The statements that link an exercise to the codes of one kind. -/
def linkInsertions (id : Uuid) (kind : CodeKind) (link : Link) (codes : List String) :
    List Insertion :=
  (distinct codes).map fun code => ⟨kind, code, Exercise.Query.link link id code⟩

/-- The statements that create an exercise. -/
def insertions (id : Uuid) (exercise : NewExercise) : List Insertion :=
  ⟨.category, exercise.category, insert id exercise⟩
    :: (linkInsertions id .equipmentType .equipmentType exercise.equipmentTypes
      ++ linkInsertions id .primaryMuscle .primaryMuscle exercise.primaryMuscles
      ++ linkInsertions id .tag .tag exercise.tags)

/-- A statement that affected no row tells of an unknown code; other failures stay what they
are. -/
def blame (parts : List Insertion) (e : QueryBatch.Error) : Error :=
  match e with
  | .statement index (.rowsAffected 0) =>
      match parts[index]? with
      | some part => .unknownCode part.kind part.code
      | none => .execution e
  | e => .execution e

/-- A search that found nothing when it had to find one. -/
def notFound (id : Uuid) (e : QueryBatch.Error) : Error :=
  match e.root with
  | .noRows => .notFound id
  | _ => .execution e

variable {σ ρ S : Type}

/-- How the rows of a driver are read. -/
structure Reading (ρ : Type) where
  exercise : Decoder ρ Exercise
  found : Decoder ρ Match

/-- How the rows of a database are read. -/
def Reading.rows : Reading Postgres.Row where
  exercise := Postgres.Row.decoder readExercise
  found := Postgres.Row.decoder readMatch

/-- Run work whose answer is in a store of its own. -/
def collected (w : Work σ (Option α) (Except QueryBatch.Error Unit)) :
    Work σ S (Except QueryBatch.Error (Option α)) := do
  match ← Work.withStore none w with
  | (.ok (), store) => return .ok store
  | (.error e, _) => return .error e

/-- Search the library. -/
def search (d : Driver σ ρ) (reading : Reading ρ) (ctx : Context) (filter : Filter) (page : Page) :
    Work σ S (Except Error Matches) :=
  Work.inSpan "exercises" do
    let request := Exercise.Query.search filter page
    let query := TypedQuery.many request.text (.named request.args) reading.found
    match ← collected (d.runBatch ctx fun _ => query.queueMany soleSlot) with
    | .error e => return .error (.execution e)
    | .ok rows => return .ok (.ofRows (rows.getD []))

/-- Fetch an exercise. -/
def fetch (d : Driver σ ρ) (reading : Reading ρ) (ctx : Context) (id : Uuid) :
    Work σ S (Except Error Exercise) := do
  let request := byId id
  let query := TypedQuery.one request.text (.named request.args) reading.exercise
  match ← collected (d.runBatch ctx fun _ => query.queue soleSlot) with
  | .error e => return .error (notFound id e)
  | .ok none => return .error (.notFound id)
  | .ok (some exercise) => return .ok exercise

/-- Queue insertions in order. -/
def queueInsertions : List Insertion → Queueing σ ρ S Unit
  | [] => pure ()
  | part :: rest => do
      let query : TypedQuery ρ Unit := .execOneRow part.request.text (.named part.request.args)
      query.queueExec
      queueInsertions rest

/-- Insert an exercise under an identifier, with its links, and read it back, all in one batch
inside the transaction of the context or a new one. -/
def create (d : Driver σ ρ) (reading : Reading ρ) (ctx : Context) (id : Uuid)
    (exercise : NewExercise) : Work σ S (Except Error Exercise) :=
  Work.inSpan "create_exercise" do
    let parts := insertions id exercise
    let request := byId id
    let query := TypedQuery.one request.text (.named request.args) reading.exercise
    let queue (_ : Context) : Queueing σ ρ (Option Exercise) Unit := do
      queueInsertions parts
      query.queue soleSlot
    match ← collected (d.runBatchInTransaction ctx queue) with
    | .error e => return .error (blame parts e)
    | .ok none => return .error (.notFound id)
    | .ok (some created) => return .ok created

end Catalog
end QueryBatch
