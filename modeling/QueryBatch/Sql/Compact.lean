import QueryBatch.Text.Blank

/-!
# Statements on one line

For logs a statement is put on one line: its words with one space between them, and no space
inside the edges of parentheses.
-/

namespace QueryBatch
namespace Sql

/-- Drop one space after each opening parenthesis. -/
def tightenOpen : List Char → List Char
  | [] => []
  | [c] => [c]
  | c :: d :: rest =>
      if c = '(' ∧ d = ' ' then '(' :: tightenOpen rest else c :: tightenOpen (d :: rest)

/-- Drop one space before each closing parenthesis. -/
def tightenClose : List Char → List Char
  | [] => []
  | [c] => [c]
  | c :: d :: rest =>
      if c = ' ' ∧ d = ')' then ')' :: tightenClose rest else c :: tightenClose (d :: rest)

/-- The characters of a text on one line. -/
def compactChars (cs : List Char) : List Char :=
  tightenClose (tightenOpen (Text.unwords (Text.words cs)))

/-- A text on one line. -/
def compact (text : String) : String := String.ofList (compactChars text.toList)

end Sql
end QueryBatch
