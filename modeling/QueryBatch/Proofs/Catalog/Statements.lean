import QueryBatch.Catalog.Service
import QueryBatch.Postgres.Driver
import QueryBatch.Proofs.Sql.Names

/-!
# The statements of the exercise library

The statements that create an exercise and the one that reads it back have a value for each of their
names, so they can always be bound, and their texts hold nothing that cannot be written.
-/

namespace QueryBatch

open Sql

namespace Exercise
namespace Query

/-- A statement with its values bound. -/
def Request.bound (request : Request) : Sql := numberedForm request.text request.args

theorem mentions_lines
    {namess : List (List String)}
    {ls : List String}
    (hls : List.Forall₂ Mentions namess ls) :
    Mentions namess.flatten (lines ls) :=
  .joinWith (.literal rfl) (.literal rfl) hls

theorem silent_exerciseData : AllChars isSilent exerciseData := by
  refine AllChars.joinWith (.literal rfl) ?_
  simp only [List.forall_mem_cons, List.not_mem_nil, IsEmpty.forall_iff, implies_true, and_true]
  and_intros <;> exact .literal rfl

theorem mentions_byId
    (id : Uuid) :
    Mentions ["id"] (byId id).text := by
  have hhead : AllChars isSilent ("SELECT * FROM (" ++ exerciseData) :=
    (AllChars.literal rfl).append silent_exerciseData
  exact .silent_append hhead (.literal ["id"] rfl (by decide +kernel))

theorem ready_byId
    (id : Uuid) :
    Ready (byId id).args (byId id).text :=
  (mentions_byId id).ready rfl

theorem mentions_insert
    (id : Uuid)
    (exercise : NewExercise) :
    Mentions ["id", "name", "description", "instructions", "category"]
      (insert id exercise).text := by
  unfold insert
  dsimp only
  change Mentions (List.flatten
    [[], [], ["id", "name", "description", "instructions"], [], ["category"]]) (lines _)
  refine mentions_lines (.cons ?_ (.cons ?_ (.cons ?_ (.cons ?_ (.cons ?_ .nil)))))
  · exact .of_silent (.literal rfl)
  · exact .of_silent (.literal rfl)
  · exact .literal _ rfl (by decide +kernel)
  · exact .of_silent (.literal rfl)
  · exact .literal _ rfl (by decide +kernel)

theorem ready_insert
    (id : Uuid)
    (exercise : NewExercise) :
    Ready (insert id exercise).args (insert id exercise).text :=
  (mentions_insert id exercise).ready rfl

theorem silent_linkTarget
    (kind : Link) :
    AllChars isSilent
      ("        INSERT INTO " ++ kind.linkTable ++ " (exercise_id, " ++ kind.linkColumn ++ ")") := by
  have htable : AllChars isSilent kind.linkTable := by cases kind <;> exact .literal rfl
  have hcolumn : AllChars isSilent kind.linkColumn := by cases kind <;> exact .literal rfl
  exact ((((AllChars.literal rfl).append htable).append (.literal rfl)).append hcolumn).append
    (.literal rfl)

theorem silent_linkSource
    (kind : Link) :
    AllChars isSilent ("        FROM repbatch.exercises e, " ++ kind.lookupTable ++ " l") := by
  have hlookup : AllChars isSilent kind.lookupTable := by cases kind <;> exact .literal rfl
  exact ((AllChars.literal rfl).append hlookup).append (.literal rfl)

theorem mentions_link
    (kind : Link)
    (id : Uuid)
    (code : String) :
    Mentions ["id", "code"] (link kind id code).text := by
  unfold link
  dsimp only
  change Mentions (List.flatten [[], [], [], [], ["id", "code"]]) (lines _)
  refine mentions_lines (.cons ?_ (.cons ?_ (.cons ?_ (.cons ?_ (.cons ?_ .nil)))))
  · exact .of_silent (.literal rfl)
  · exact .of_silent (silent_linkTarget kind)
  · exact .of_silent (.literal rfl)
  · exact .of_silent (silent_linkSource kind)
  · exact .literal _ rfl (by decide +kernel)

theorem ready_link
    (kind : Link)
    (id : Uuid)
    (code : String) :
    Ready (link kind id code).args (link kind id code).text :=
  (mentions_link kind id code).ready rfl

end Query
end Exercise
end QueryBatch
