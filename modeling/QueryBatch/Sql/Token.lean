/-!
# Tokens of a statement text

A statement text is cut from left to right into quoted runs, comments, placeholders and single
characters. Only what stands outside quotes and comments can be a placeholder. `Token.scan` keeps
every character: the texts of the tokens, one after the other, are the statement text.
-/

namespace QueryBatch
namespace Sql

/-- A piece of a statement text. -/
inductive Token
  /-- From a quote to its closing quote, or to the end of the text. -/
  | quoted (text : List Char)
  /-- From two dashes up to the end of the line, or a slash and a star up to a star and a slash. -/
  | comment (text : List Char)
  /-- An at sign and a name. -/
  | placeholder (name : List Char)
  /-- Any other character. -/
  | plain (c : Char)
  deriving DecidableEq, Repr

namespace Token

/-- The characters of a token. -/
def text : Token → List Char
  | .quoted cs => cs
  | .comment cs => cs
  | .placeholder name => '@' :: name
  | .plain c => [c]

/-- Whether a character can start a name. -/
def isNameStart (c : Char) : Bool := c.isAlpha || c = '_'

/-- Whether a character can continue a name. -/
def isNamePart (c : Char) : Bool := c.isAlphanum || c = '_'

/-- The rest of a quoted run after its opening quote, and what follows it. A doubled quote is
content. -/
def splitQuoted (quote : Char) : List Char → List Char × List Char
  | [] => ([], [])
  | [c] => ([c], [])
  | c :: d :: rest =>
      if c = quote then
        if d = quote then
          let (run, after) := splitQuoted quote rest
          (c :: d :: run, after)
        else ([c], d :: rest)
      else
        let (run, after) := splitQuoted quote (d :: rest)
        (c :: run, after)

/-- The rest of a block comment after its opening two characters, and what follows it. -/
def splitBlock : List Char → List Char × List Char
  | [] => ([], [])
  | [c] => ([c], [])
  | c :: d :: rest =>
      if c = '*' ∧ d = '/' then (['*', '/'], rest)
      else
        let (run, after) := splitBlock (d :: rest)
        (c :: run, after)

/-- Whether a character is not the end of a line. -/
def isLinePart (c : Char) : Bool := c ≠ '\n'

/-- The first token of a text that starts with a character, and what follows it. -/
def next (c : Char) (rest : List Char) : Token × List Char :=
  if c = '\'' ∨ c = '"' then
    let (run, after) := splitQuoted c rest
    (.quoted (c :: run), after)
  else
    match c, rest with
    | '-', '-' :: rest =>
        (.comment ('-' :: '-' :: rest.takeWhile isLinePart), rest.dropWhile isLinePart)
    | '/', '*' :: rest =>
        let (run, after) := splitBlock rest
        (.comment ('/' :: '*' :: run), after)
    | '@', d :: rest =>
        if isNameStart d then
          (.placeholder (d :: rest.takeWhile isNamePart), rest.dropWhile isNamePart)
        else (.plain '@', d :: rest)
    | c, rest => (.plain c, rest)

theorem length_splitQuoted (quote : Char) :
    ∀ cs : List Char, (splitQuoted quote cs).2.length ≤ cs.length
  | [] => by simp [splitQuoted]
  | [c] => by simp [splitQuoted]
  | c :: d :: rest => by
      have hrest := length_splitQuoted quote rest
      have hnext := length_splitQuoted quote (d :: rest)
      unfold splitQuoted
      split
      · split
        · simp only [List.length_cons]; omega
        · simp
      · simp only [List.length_cons] at hnext ⊢; omega

theorem length_splitBlock : ∀ cs : List Char, (splitBlock cs).2.length ≤ cs.length
  | [] => by simp [splitBlock]
  | [c] => by simp [splitBlock]
  | c :: d :: rest => by
      have hnext := length_splitBlock (d :: rest)
      unfold splitBlock
      split
      · simp only [List.length_cons]; omega
      · simp only [List.length_cons] at hnext ⊢; omega

/-- What follows a token is no longer than what follows its first character. -/
theorem length_next (c : Char) (rest : List Char) : (next c rest).2.length ≤ rest.length := by
  unfold next
  split
  · exact length_splitQuoted c rest
  · split
    · have hle := (List.dropWhile_sublist isLinePart (l := ‹List Char›)).length_le
      simp only [List.length_cons]; omega
    · exact Nat.le_succ_of_le (length_splitBlock _)
    · split
      · have hle := (List.dropWhile_sublist isNamePart (l := ‹List Char›)).length_le
        simp only [List.length_cons]; omega
      · exact Nat.le_refl _
    · exact Nat.le_refl _

/-- The tokens of a text. -/
def scan (cs : List Char) : List Token :=
  match cs with
  | [] => []
  | c :: rest => (next c rest).1 :: scan (next c rest).2
termination_by cs.length
decreasing_by
  have := length_next c rest
  simp only [List.length_cons]
  omega

end Token
end Sql
end QueryBatch
