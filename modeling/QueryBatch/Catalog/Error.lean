import QueryBatch.Batch.Error

/-!
# Errors of the exercise catalogue
-/

namespace QueryBatch
namespace Catalog

/-- The kinds of codes that an exercise refers to. -/
inductive CodeKind
  | category
  | equipmentType
  | primaryMuscle
  | tag
  deriving DecidableEq, Repr, Inhabited

/-- The wording of a kind of code. -/
def CodeKind.message : CodeKind → String
  | .category => "category"
  | .equipmentType => "equipment type"
  | .primaryMuscle => "primary muscle"
  | .tag => "tag"

/-- Why a call to the catalogue failed. -/
inductive Error
  | notFound (id : Uuid)
  | unknownCode (kind : CodeKind) (code : String)
  | execution (source : QueryBatch.Error)
  deriving DecidableEq, Repr

/-- The wording of an error of the catalogue. -/
def Error.message : Error → String
  | .notFound id => "exercise " ++ id.text ++ " not found"
  | .unknownCode kind code => "unknown " ++ kind.message ++ " " ++ Text.quoted code
  | .execution source => source.message

end Catalog
end QueryBatch
