import QueryBatch.Number.Binary64
import QueryBatch.Text.Quoted

/-!
# JSON values

A JSON value keeps the fields of an object in the order in which they are to be written. Objects
read from free-form text are put in order of their names by `Json.insertField`, where a repeated
name overwrites.
-/

namespace QueryBatch

/-- A JSON number: an integer, or a binary floating point number. -/
inductive JsonNumber
  | int (n : Int)
  | float (x : Binary64)
  deriving DecidableEq, Repr, Inhabited

/-- A JSON value. -/
inductive Json
  | null
  | bool (b : Bool)
  | number (n : JsonNumber)
  | string (s : String)
  | array (items : List Json)
  | object (fields : List (String × Json))
  deriving Repr, Inhabited

namespace Json

/-- The integer `n`. -/
def int (n : Int) : Json := .number (.int n)

/-- The natural number `n`. -/
def nat (n : Nat) : Json := .number (.int n)

/-- A list of texts. -/
def strings (ss : List String) : Json := .array (ss.map .string)

/-- A value, or null for its absence. -/
def ofOption (f : α → Json) : Option α → Json
  | none => .null
  | some a => f a

/-- Put a field among fields sorted by name; a field of the same name is overwritten. -/
def insertField (name : String) (value : Json) : List (String × Json) → List (String × Json)
  | [] => [(name, value)]
  | field :: rest =>
      if name = field.1 then (name, value) :: rest
      else if name < field.1 then (name, value) :: field :: rest
      else field :: insertField name value rest

/-- Fields sorted by name, the last of equal names winning. -/
def sortFields (fields : List (String × Json)) : List (String × Json) :=
  fields.foldl (fun sorted field => insertField field.1 field.2 sorted) []

mutual

/-- The value with the fields of every object sorted by name. -/
def sorted : Json → Json
  | .array items => .array (sortedItems items)
  | .object fields => .object (sortFields (sortedFields fields))
  | .null => .null
  | .bool b => .bool b
  | .number n => .number n
  | .string s => .string s

/-- Items with sorted fields. -/
def sortedItems : List Json → List Json
  | [] => []
  | v :: rest => sorted v :: sortedItems rest

/-- Fields whose values have sorted fields. -/
def sortedFields : List (String × Json) → List (String × Json)
  | [] => []
  | (name, v) :: rest => (name, sorted v) :: sortedFields rest

end

/-- The field of an object. -/
def field? (name : String) : Json → Option Json
  | .object fields => fields.lookup name
  | _ => none

/-- The text of a string value. -/
def string? : Json → Option String
  | .string s => some s
  | _ => none

/-- The integer of a number value. -/
def int? : Json → Option Int
  | .number (.int n) => some n
  | _ => none

/-- The items of an array value. -/
def array? : Json → Option (List Json)
  | .array items => some items
  | _ => none

/-- Text of a number. -/
def numberText : JsonNumber → String
  | .int n => toString n
  | .float x => x.write Binary64.jsonLayout

/-- A character inside a JSON string. -/
def escapedChar (c : Char) : List Char :=
  match c with
  | '"' => ['\\', '"']
  | '\\' => ['\\', '\\']
  | '\x08' => ['\\', 'b']
  | '\x0C' => ['\\', 'f']
  | '\n' => ['\\', 'n']
  | '\r' => ['\\', 'r']
  | '\t' => ['\\', 't']
  | c =>
      if c.toNat < 0x20 then
        ['\\', 'u', '0', '0', Nat.digitChar (c.toNat / 16), Nat.digitChar (c.toNat % 16)]
      else [c]

/-- A JSON string. -/
def renderString (s : String) : List Char :=
  '"' :: (s.toList.flatMap escapedChar ++ ['"'])

mutual

/-- The characters of a value without blanks. -/
def render : Json → List Char
  | .null => "null".toList
  | .bool true => "true".toList
  | .bool false => "false".toList
  | .number n => (numberText n).toList
  | .string s => renderString s
  | .array items => '[' :: renderItems items
  | .object fields => '\x7b' :: renderFields fields

/-- Items up to the closing bracket. -/
def renderItems : List Json → List Char
  | [] => [']']
  | [v] => render v ++ [']']
  | v :: rest => render v ++ ',' :: renderItems rest

/-- Fields up to the closing brace. -/
def renderFields : List (String × Json) → List Char
  | [] => ['\x7d']
  | [(name, v)] => renderString name ++ ':' :: (render v ++ ['\x7d'])
  | (name, v) :: rest => renderString name ++ ':' :: (render v ++ ',' :: renderFields rest)

end

/-- A value on one line, without blanks. -/
def compact (v : Json) : String := String.ofList (render v)

/-- The start of a line at a depth. -/
def newline (depth : Nat) : List Char := '\n' :: List.replicate (2 * depth) ' '

mutual

/-- The characters of a value with one item or field a line, two blanks deeper than its parent. -/
def renderLines (depth : Nat) : Json → List Char
  | .array (v :: rest) => '[' :: renderItemLines depth (v :: rest)
  | .object (field :: rest) => '\x7b' :: renderFieldLines depth (field :: rest)
  | .array [] => ['[', ']']
  | .object [] => ['\x7b', '\x7d']
  | .null => render .null
  | .bool b => render (.bool b)
  | .number n => render (.number n)
  | .string s => render (.string s)

/-- Items, each on a line, up to the closing bracket. -/
def renderItemLines (depth : Nat) : List Json → List Char
  | [] => [']']
  | [v] => newline (depth + 1) ++ renderLines (depth + 1) v ++ newline depth ++ [']']
  | v :: rest =>
      newline (depth + 1) ++ renderLines (depth + 1) v ++ ',' :: renderItemLines depth rest

/-- Fields, each on a line, up to the closing brace. -/
def renderFieldLines (depth : Nat) : List (String × Json) → List Char
  | [] => ['\x7d']
  | [(name, v)] =>
      newline (depth + 1) ++ renderString name ++ ':' :: ' ' :: renderLines (depth + 1) v
        ++ newline depth ++ ['\x7d']
  | (name, v) :: rest =>
      newline (depth + 1) ++ renderString name ++ ':' :: ' ' :: renderLines (depth + 1) v
        ++ ',' :: renderFieldLines depth rest

end

/-- A value over several lines. -/
def pretty (v : Json) : String := String.ofList (renderLines 0 v)

mutual

/-- A value as shown to a person, with the name of its kind. -/
def shown : Json → String
  | .null => "Null"
  | .bool b => "Bool(" ++ (if b then "true" else "false") ++ ")"
  | .number n => "Number(" ++ numberText n ++ ")"
  | .string s => "String(" ++ Text.quoted s ++ ")"
  | .array items => "Array [" ++ shownItems items ++ "]"
  | .object fields => "Object \x7b" ++ shownFields fields ++ "\x7d"

/-- Items as shown to a person. -/
def shownItems : List Json → String
  | [] => ""
  | [v] => shown v
  | v :: rest => shown v ++ ", " ++ shownItems rest

/-- Fields as shown to a person. -/
def shownFields : List (String × Json) → String
  | [] => ""
  | [(name, v)] => Text.quoted name ++ ": " ++ shown v
  | (name, v) :: rest => Text.quoted name ++ ": " ++ shown v ++ ", " ++ shownFields rest

end

end Json
end QueryBatch
