import QueryBatch.Json.Value
import QueryBatch.Uuid

/-!
# Statement parameters

The values that a statement can be sent with, and how they are shown to a person. `Param.of` turns
the values of the program into parameters; an absent value becomes the null parameter.
-/

namespace QueryBatch

/-- A value sent with a statement. -/
inductive Param
  | null
  | bool (b : Bool)
  | int (n : Int)
  | float (x : Binary64)
  | text (s : String)
  | texts (ss : List String)
  | uuid (u : Uuid)
  | json (v : Json)
  deriving Inhabited

namespace Param

/-- A list between brackets. -/
def bracketed (parts : List String) : String := "[" ++ Text.joinWith ", " parts ++ "]"

/-- A parameter as shown to a person. -/
def shown : Param → String
  | .null => "Null"
  | .bool b => "Bool(" ++ (if b then "true" else "false") ++ ")"
  | .int n => "Int(" ++ toString n ++ ")"
  | .float x => "Float(" ++ x.write Binary64.shownLayout ++ ")"
  | .text s => "String(" ++ Text.quoted s ++ ")"
  | .texts ss => "StringArray(" ++ bracketed (ss.map Text.quoted) ++ ")"
  | .uuid u => "Uuid(" ++ u.text ++ ")"
  | .json v => "Json(" ++ v.shown ++ ")"

end Param

/-- The types whose values are parameters. -/
class ToParam (α : Type) where
  /-- The parameter of a value. -/
  toParam : α → Param

export ToParam (toParam)

instance : ToParam Bool := ⟨.bool⟩
instance : ToParam Int := ⟨.int⟩
instance : ToParam Binary64 := ⟨.float⟩
instance : ToParam String := ⟨.text⟩
instance : ToParam (List String) := ⟨.texts⟩
instance : ToParam Uuid := ⟨.uuid⟩
instance : ToParam Json := ⟨.json⟩
instance [ToParam α] : ToParam (Option α) :=
  ⟨fun
    | none => .null
    | some a => toParam a⟩

end QueryBatch
