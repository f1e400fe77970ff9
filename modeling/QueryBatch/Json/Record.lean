import QueryBatch.Json.Reader

/-!
# Reading records

Readers for typed data: texts, truth values, integers of a range, lists, optional data, and records
given by their fields. A record may stand as an object, with its fields in any order and unknown
ones passed over, or as a list in field order. Fields differ in where they may be absent.
-/

namespace QueryBatch
namespace Json
namespace Reader

/-- What is found ahead where `expected` should stand, as a fault. Scalars are read first; brackets
are left alone. -/
def unexpected (expected : String) : Reader α := do
  let found : Found ← do
    match ← peek with
    | some 'n' =>
        advance
        identifier ['u', 'l', 'l']
        pure .null
    | some 't' =>
        advance
        identifier ['r', 'u', 'e']
        pure (.bool true)
    | some 'f' =>
        advance
        identifier ['a', 'l', 's', 'e']
        pure (.bool false)
    | some '"' =>
        advance
        pure (.string (← stringTail))
    | some '[' => pure .list
    | some '\x7b' => pure .map
    | some ch =>
        if ch = '-' ∨ ch.isDigit then pure (.number (← number)) else failAhead .expectedValue
    | none => failAhead .expectedValue
  failHere (.invalidType found expected)

/-- The first character of a value. -/
def peekValue : Reader Char := do
  match ← peekPart with
  | none => failAhead .endInValue
  | some ch => return ch

/-- A text. -/
def string : Reader String := do
  if (← peekValue) = '"' then
    advance
    stringTail
  else unexpected "a string"

/-- A text with a meaning of its own, described by `expected` and read by `meaning`. -/
def stringAs (expected : String) (meaning : String → Except String α) : Reader α := do
  if (← peekValue) = '"' then
    advance
    match meaning (← stringTail) with
    | .ok a => return a
    | .error message => failHere (.rejected message)
  else unexpected expected

/-- A truth value. -/
def bool : Reader Bool := do
  match ← peekValue with
  | 't' =>
      advance
      identifier ['r', 'u', 'e']
      return true
  | 'f' =>
      advance
      identifier ['a', 'l', 's', 'e']
      return false
  | _ => unexpected "a boolean"

/-- An integer from `least` to `greatest`, described by `expected`. -/
def natural (expected : String) (least greatest : Nat) : Reader Nat := do
  let ch ← peekValue
  if ch = '-' ∨ ch.isDigit then
    match ← number with
    | .int n =>
        if (least : Int) ≤ n ∧ n ≤ greatest then return n.toNat
        else failHere (.invalidValue (.number (.int n)) expected)
    | .float x => failHere (.invalidType (.number (.float x)) expected)
  else unexpected expected

/-- Nothing for null, else a datum. -/
def optional (r : Reader α) : Reader (Option α) := do
  match ← peekPart with
  | some 'n' =>
      advance
      identifier ['u', 'l', 'l']
      return none
  | _ => return some (← r)

/-- Items of a list after its bracket. -/
def itemsWith (item : Reader α) : Nat → Bool → Reader (List α)
  | 0, _ => failHere .endInList
  | fuel + 1, first => do
      if ← moreItems first then
        let a ← item
        let rest ← itemsWith item fuel false
        return a :: rest
      else return []

/-- A list of data. -/
def list (item : Reader α) : Reader (List α) := do
  if (← peekValue) = '[' then
    placed (nested (do closing (itemsWith item (← budget) true) closeList))
  else unexpected "a sequence"

/-- One field of a record that is being filled. -/
structure Field (σ : Type) where
  /-- The name of the field in an object. -/
  name : String
  /-- Whether the record already has it. -/
  present : σ → Bool
  /-- Read its datum into the record. -/
  read : σ → Reader σ
  /-- The record without it in an object, if it may be absent there. -/
  absent : σ → Option σ
  /-- The record without it in a list, if it may be absent there. -/
  omitted : σ → Option σ

/-- A record: its name, the record with nothing filled in, and its fields in order. -/
structure Shape (σ : Type) where
  name : String
  empty : σ
  fields : List (Field σ)

/-- The record as named in messages. -/
def Shape.title (shape : Shape σ) : String := "struct " ++ shape.name

/-- Fill a record from the items of a list. -/
def fromItems (shape : Shape σ) : Nat → List (Field σ) → Bool → σ → Reader σ
  | _, [], _, record => return record
  | position, field :: rest, first, record => do
      if ← moreItems first then
        let record ← field.read record
        fromItems shape (position + 1) rest false record
      else
        match field.omitted record with
        | some record => fromItems shape (position + 1) rest first record
        | none =>
            throw ⟨.invalidLength position
              (shape.title ++ " with " ++ toString shape.fields.length ++ " elements"), none⟩

/-- Fill a record from the fields of an object. -/
def fromFields (shape : Shape σ) : Nat → Bool → σ → Reader σ
  | 0, _, _ => failHere .endInObject
  | fuel + 1, first, record => do
      if ← moreFields first then
        advance
        let name ← stringTail
        match shape.fields.find? (fun field => field.name = name) with
        | some field =>
            if field.present record then throw ⟨.duplicateField name, none⟩
            else
              colon
              let record ← field.read record
              fromFields shape fuel false record
        | none =>
            colon
            skipValue
            fromFields shape fuel false record
      else
        shape.fields.foldlM (fun record field =>
          if field.present record then pure record
          else
            match field.absent record with
            | some record => pure record
            | none => throw ⟨.missingField field.name, none⟩) record

/-- A record. -/
def record (shape : Shape σ) : Reader σ := do
  match ← peekValue with
  | '[' => placed (nested (closing (fromItems shape 0 shape.fields true shape.empty) closeList))
  | '\x7b' =>
      placed (nested (do closing (fromFields shape (← budget) true shape.empty) closeObject))
  | _ => unexpected shape.title

/-- A list of texts. -/
def readStrings : Reader (List String) := list string

/-- A field that has to be there, kept in `get` and filled by `set`. -/
def requiredField (name : String) (get : σ → Option α) (set : α → σ → σ) (r : Reader α) :
    Field σ where
  name := name
  present := fun s => (get s).isSome
  read := fun s => do return set (← r) s
  absent := fun _ => none
  omitted := fun _ => none

/-- A field that may be absent from an object but not from a list. -/
def optionalField (name : String) (get : σ → Option (Option α)) (set : Option α → σ → σ)
    (r : Reader α) : Field σ where
  name := name
  present := fun s => (get s).isSome
  read := fun s => do return set (← optional r) s
  absent := fun s => some (set none s)
  omitted := fun _ => none

/-- A field that may be absent anywhere and then has a value of its own. -/
def defaultField (name : String) (get : σ → Option α) (set : α → σ → σ) (value : α)
    (r : Reader α) : Field σ where
  name := name
  present := fun s => (get s).isSome
  read := fun s => do return set (← r) s
  absent := fun s => some (set value s)
  omitted := fun s => some (set value s)

end Reader
end Json
end QueryBatch
