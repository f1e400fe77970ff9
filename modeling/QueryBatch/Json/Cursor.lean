import QueryBatch.Json.Value

/-!
# Reading position and faults of a JSON text

A `Cursor` is the rest of a text together with the line and column of its start. A `Fault` is the
cause for which a text is refused, usually with a position. A `Reader` moves a cursor and keeps it
where it stopped also when it fails, because the place of a fault found later depends on it.
-/

namespace QueryBatch
namespace Json

/-- A place in a text. Lines count from one; a column is the number of octets since the last line
break. -/
structure Position where
  line : Nat
  column : Nat
  deriving DecidableEq, Repr, Inhabited

/-- The position after some octets of a character. -/
def Position.after (p : Position) (c : Char) (octets : Nat) : Position :=
  if c = '\n' then ⟨p.line + 1, 0⟩ else ⟨p.line, p.column + octets⟩

/-- What a text holds at a place where something else was expected. -/
inductive Found
  | null
  | bool (b : Bool)
  | number (n : JsonNumber)
  | string (s : String)
  | list
  | map

/-- What was found, as named in a message. -/
def Found.message : Found → String
  | .null => "null"
  | .bool b => "boolean `" ++ (if b then "true" else "false") ++ "`"
  | .number (.int n) => "integer `" ++ toString n ++ "`"
  | .number (.float x) => "floating point `" ++ x.write Binary64.jsonLayout ++ "`"
  | .string s => "string " ++ Text.quoted s
  | .list => "sequence"
  | .map => "map"

/-- Why a text is refused. -/
inductive Cause
  | endInValue
  | endInString
  | endInList
  | endInObject
  | expectedValue
  | expectedIdentifier
  | expectedColon
  | expectedListEnd
  | expectedObjectEnd
  | keyNotString
  | trailingComma
  | trailingCharacters
  | invalidNumber
  | numberOutOfRange
  | invalidEscape
  | endOfHexEscape
  | loneSurrogate
  | controlCharacter
  | tooDeep
  | invalidType (found : Found) (expected : String)
  | invalidValue (found : Found) (expected : String)
  | invalidLength (length : Nat) (expected : String)
  | missingField (name : String)
  | duplicateField (name : String)
  | rejected (message : String)

/-- The three families of causes: the text ends early, is malformed, or holds the wrong data. -/
inductive Family
  | ended
  | malformed
  | wrongData
  deriving DecidableEq, Repr

/-- The family of a cause. -/
def Cause.family : Cause → Family
  | .endInValue | .endInString | .endInList | .endInObject => .ended
  | .invalidType _ _ | .invalidValue _ _ | .invalidLength _ _ | .missingField _
  | .duplicateField _ | .rejected _ => .wrongData
  | _ => .malformed

/-- The wording of a cause. -/
def Cause.message : Cause → String
  | .endInValue => "EOF while parsing a value"
  | .endInString => "EOF while parsing a string"
  | .endInList => "EOF while parsing a list"
  | .endInObject => "EOF while parsing an object"
  | .expectedValue => "expected value"
  | .expectedIdentifier => "expected ident"
  | .expectedColon => "expected `:`"
  | .expectedListEnd => "expected `,` or `]`"
  | .expectedObjectEnd => "expected `,` or `\x7d`"
  | .keyNotString => "key must be a string"
  | .trailingComma => "trailing comma"
  | .trailingCharacters => "trailing characters"
  | .invalidNumber => "invalid number"
  | .numberOutOfRange => "number out of range"
  | .invalidEscape => "invalid escape"
  | .endOfHexEscape => "unexpected end of hex escape"
  | .loneSurrogate => "lone leading surrogate in hex escape"
  | .controlCharacter => "control character (\\u0000-\\u001F) found while parsing a string"
  | .tooDeep => "recursion limit exceeded"
  | .invalidType found expected => "invalid type: " ++ found.message ++ ", expected " ++ expected
  | .invalidValue found expected => "invalid value: " ++ found.message ++ ", expected " ++ expected
  | .invalidLength n expected => "invalid length " ++ toString n ++ ", expected " ++ expected
  | .missingField name => "missing field `" ++ name ++ "`"
  | .duplicateField name => "duplicate field `" ++ name ++ "`"
  | .rejected message => message

/-- A cause, with the place it was noticed at if it has one. -/
structure Fault where
  cause : Cause
  place : Option Position

/-- The wording of a fault. -/
def Fault.message (f : Fault) : String :=
  match f.place with
  | none => f.cause.message
  | some p =>
      f.cause.message ++ " at line " ++ toString p.line ++ " column " ++ toString p.column

/-- The rest of a text, where it starts, and how many more levels of nesting may be opened. -/
structure Cursor where
  rest : List Char
  position : Position
  levels : Nat

/-- The start of a text. -/
def Cursor.start (text : String) : Cursor := ⟨text.toList, ⟨1, 0⟩, 128⟩

/-- The position one octet further, or here at the end. -/
def Cursor.ahead (c : Cursor) : Position :=
  match c.rest with
  | [] => c.position
  | ch :: _ => c.position.after ch 1

/-- The cursor after the next character. -/
def Cursor.next (c : Cursor) : Cursor :=
  match c.rest with
  | [] => c
  | ch :: rest => { c with rest := rest, position := c.position.after ch ch.utf8Size }

/-- A step that moves a cursor and may fail. -/
abbrev Reader (α : Type) := ExceptT Fault (StateM Cursor) α

namespace Reader

/-- Refuse the text where the cursor stands. -/
def failHere (cause : Cause) : Reader α := do
  let c ← get
  throw ⟨cause, some c.position⟩

/-- Refuse the text at the character ahead. -/
def failAhead (cause : Cause) : Reader α := do
  let c ← get
  throw ⟨cause, some c.ahead⟩

/-- The character ahead, if any. -/
def peek : Reader (Option Char) := do
  let c ← get
  return c.rest.head?

/-- Step over the character ahead. -/
def advance : Reader Unit := modify Cursor.next

/-- The number of steps that a loop over the rest of the text can take. -/
def budget : Reader Nat := do
  let c ← get
  return c.rest.length + 1

/-- The four characters that may stand between the parts of a text. -/
def isSpace (c : Char) : Bool := c = ' ' || c = '\n' || c = '\t' || c = '\r'

/-- The cursor after the spaces ahead. -/
def skipSpaces (c : Cursor) : Cursor :=
  go c.rest c
where
  /-- One step for each space. -/
  go : List Char → Cursor → Cursor
    | [], c => c
    | ch :: rest, c => if isSpace ch then go rest c.next else c

/-- The first character after the spaces ahead, if any. -/
def peekPart : Reader (Option Char) := do
  modify skipSpaces
  peek

/-- Give a fault without a place the place where the cursor stands. -/
def placed (r : Reader α) : Reader α :=
  tryCatch r fun fault => do
    match fault.place with
    | some _ => throw fault
    | none => failHere fault.cause

/-- Run a reader one level of nesting deeper, after the opening bracket ahead. -/
def nested (r : Reader α) : Reader α := do
  let c ← get
  set { c with levels := c.levels - 1 }
  if c.levels ≤ 1 then failAhead .tooDeep
  else
    advance
    let a ← r
    modify fun c => { c with levels := c.levels + 1 }
    return a

/-- What a reader answers, and where it stops. -/
def runFrom (r : Reader α) (c : Cursor) : Except Fault α × Cursor :=
  StateT.run (ExceptT.run r) c

end Reader
end Json
end QueryBatch
