import QueryBatch.Sql.Token
import QueryBatch.Text.Blank

/-!
# The layout of a statement

A statement text is set over several lines for a person to read. Each clause has its head on a line
and its body below, indented; so has the inside of parentheses, unless it is short and holds no
clause. Commas end lines. Blanks of the text are not kept; everything else is.
-/

namespace QueryBatch
namespace Sql
namespace Layout

/-- A piece of a statement text, as it matters to the layout. -/
inductive Piece
  | blank (text : List Char)
  /-- A word, a value or an operator. -/
  | word (text : List Char)
  /-- The head of a clause. -/
  | clause (text : List Char)
  /-- A word that starts a line. -/
  | joint (text : List Char)
  | dot
  | comma
  | opening
  | closing
  deriving DecidableEq, Repr

/-- The characters of a piece. -/
def Piece.text : Piece → List Char
  | .blank cs | .word cs | .clause cs | .joint cs => cs
  | .dot => ['.']
  | .comma => [',']
  | .opening => ['(']
  | .closing => [')']

/-- Whether two characters next to each other are one operator. -/
def joins (c d : Char) : Bool := (c = '[' && d = ']') || (c = ':' && d = ':')

/-- Put a character before pieces, into the first of them if it belongs there. -/
def attachChar (c : Char) (after : List Piece) : List Piece :=
  if Text.isBlank c then
    match after with
    | .blank cs :: rest => .blank (c :: cs) :: rest
    | after => .blank [c] :: after
  else
    match c with
    | '.' => .dot :: after
    | ',' => .comma :: after
    | '(' => .opening :: after
    | ')' => .closing :: after
    | c =>
        match after with
        | .word (d :: cs) :: rest =>
            if Token.isNamePart c && Token.isNamePart d || cs.isEmpty && joins c d then
              .word (c :: d :: cs) :: rest
            else .word [c] :: after
        | after => .word [c] :: after

/-- Put a token before pieces. -/
def attach (token : Token) (after : List Piece) : List Piece :=
  match token with
  | .plain c => attachChar c after
  | token => .word token.text :: after

/-- Heads of clauses that are one word. -/
def clauseWords : List String := ["SELECT", "FROM", "WHERE", "HAVING", "LIMIT"]

/-- Heads of clauses that are two words. -/
def clausePairs : List (String × String) := [("GROUP", "BY"), ("ORDER", "BY"), ("INSERT", "INTO")]

/-- Words that start a line. -/
def jointWords : List String := ["AND", "OR", "JOIN"]

/-- Pairs of words that start a line. -/
def jointPairs : List (String × String) := [("LEFT", "JOIN"), ("INNER", "JOIN"), ("RIGHT", "JOIN")]

/-- A word by itself as a piece. -/
def ofWord (cs : List Char) : Piece :=
  if clauseWords.contains (String.ofList cs) then .clause cs
  else if jointWords.contains (String.ofList cs) then .joint cs
  else .word cs

/-- Two words with a blank between them as one piece, if they belong together. -/
def ofPair? (a b : List Char) : Option Piece :=
  let pair := (String.ofList a, String.ofList b)
  if clausePairs.contains pair then some (.clause (a ++ ' ' :: b))
  else if jointPairs.contains pair then some (.joint (a ++ ' ' :: b))
  else none

/-- Pieces with the words marked that start clauses and lines. A word after a dot is a name. -/
def mark : List Piece → List Piece
  | [] => []
  | .dot :: .word cs :: rest => .dot :: .word cs :: mark rest
  | .word a :: .blank s :: .word b :: rest =>
      match ofPair? a b with
      | some piece => piece :: mark rest
      | none => ofWord a :: mark (.blank s :: .word b :: rest)
  | .word cs :: rest => ofWord cs :: mark rest
  | piece :: rest => piece :: mark rest

/-- The pieces of a text. -/
def pieces (text : String) : List Piece := mark ((Token.scan text.toList).foldr attach [])

/-- The longest text in parentheses that stays on its line. -/
def inlineLength : Nat := 50

/-- Whether what is opened ahead is closed before so many characters and without a clause or the
start of a line in between. -/
def closesWithin : Nat → Nat → List Piece → Bool
  | _, _, [] => false
  | room, depth, piece :: rest =>
      let length := piece.text.length
      if room < length then false
      else
        match piece with
        | .opening => closesWithin (room - length) (depth + 1) rest
        | .closing => depth ≤ 1 || closesWithin (room - length) (depth - 1) rest
        | .clause _ | .joint _ => false
        | _ => closesWithin (room - length) depth rest

/-- What makes lines indented. -/
inductive Level
  | clause
  | block
  deriving DecidableEq, Repr

/-- A layout on the way. -/
structure State where
  /-- What was written, the last character first. -/
  written : List Char := []
  /-- The levels that are open, the innermost first. -/
  levels : List Level := []
  /-- The parentheses that are open on this line. -/
  inline : Nat := 0

namespace State

/-- Take back spaces at the end. -/
def trimmed (s : State) : State := { s with written := s.written.dropWhile (· = ' ') }

/-- Write characters. -/
def put (s : State) (cs : List Char) : State := { s with written := cs.reverse ++ s.written }

/-- Go to the start of a line, unless this is one. -/
def newLine (s : State) : State :=
  let s := s.trimmed
  let s := if s.written.isEmpty || s.written.head? = some '\n' then s else s.put ['\n']
  s.put (List.replicate (2 * s.levels.length) ' ')

/-- Leave the clause that this is in, if it is in one. -/
def leaveClause (s : State) : State :=
  match s.levels with
  | .clause :: rest => { s with levels := rest }
  | _ => s

/-- Leave the block that this is in, with the clauses in it. -/
def leaveBlock (s : State) : State :=
  { s with levels := (s.levels.dropWhile (· = .clause)).drop 1 }

/-- Open a parenthesis. What stands next to it in the text still does. -/
def openParen (s : State) (spaced : Bool) (rest : List Piece) : State :=
  let s := (if spaced then s else s.trimmed).put ['(']
  if 0 < s.inline then { s with inline := s.inline + 1 }
  else if closesWithin inlineLength 0 (.opening :: rest) then { s with inline := 1 }
  else { s with levels := .block :: s.levels }.newLine

/-- Close a parenthesis. -/
def closeParen (s : State) : State :=
  if 0 < s.inline then { s with inline := s.inline - 1 }.trimmed.put [')', ' ']
  else s.leaveBlock.newLine.put [')', ' ']

/-- Write a piece; `spaced` says whether a blank or a parenthesis stands before it, and `rest` what
follows. -/
def place (s : State) (spaced : Bool) (piece : Piece) (rest : List Piece) : State :=
  match piece with
  | .blank _ => s
  | .word cs => s.put (cs ++ [' '])
  | .clause cs =>
      let s := s.leaveClause.newLine
      ({ s with levels := .clause :: s.levels }.put cs).newLine
  | .joint cs => s.newLine.put (cs ++ [' '])
  | .dot => s.trimmed.put ['.']
  | .comma =>
      let s := s.trimmed.put [',', ' ']
      if 0 < s.inline then s else s.newLine
  | .opening => s.openParen spaced rest
  | .closing => s.closeParen

end State

/-- Whether the space before a parenthesis after a piece is kept. -/
def keepsSpace : Piece → Bool
  | .blank _ | .opening => true
  | _ => false

/-- Write pieces. -/
def placeAll (spaced : Bool) (s : State) : List Piece → State
  | [] => s
  | piece :: rest => placeAll (keepsSpace piece) (s.place spaced piece rest) rest

/-- A statement text over several lines. -/
def format (text : String) : String :=
  let written := (placeAll false {} (pieces text)).written
  String.ofList (written.dropWhile Text.isBlank).reverse

end Layout
end Sql
end QueryBatch
