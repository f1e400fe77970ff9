import QueryBatch.Proofs.Sql.Binding

/-!
# Lexemes of a statement text

How the database reads a statement text when backslashes stand for themselves in ordinary constants.

* Block comments nest.
* An ordinary constant ends at a quote that is not doubled. In an escaped constant a backslash takes
  the next character with it. An escaped constant goes on at the next quote, if only white space and
  comments come in between and a line ends there.
* A dollar-quoted constant ends where its opening tag comes again.
* Operators are as long as they can be, but no comment begins inside of them, and they end in a sign
  only if they have a character that no standard operator has.

What is not closed goes on to the end of the text.
-/

namespace QueryBatch
namespace Sql

inductive LexKind
  /-- A name, a key word or a number. -/
  | word
  | constant
  | escaped
  | dollar
  | identifier
  | line
  | block
  | operator
  | space
  | other
  deriving DecidableEq, Repr

/-- A piece of a statement text as the database reads it. -/
structure Lexeme where
  kind : LexKind
  text : List Char
  deriving DecidableEq, Repr

namespace Lexeme

section Characters

def isNewline (c : Char) : Bool := c = '\n' || c = '\r'

def isSpace (c : Char) : Bool := isNewline c || c = ' ' || c = '\t' || c = '\x0b' || c = '\x0c'

/-- Letters of all scripts begin a word. -/
def isWordStart (c : Char) : Bool := c.isAlpha || c = '_' || 128 ≤ c.toNat

def isTagPart (c : Char) : Bool := isWordStart c || c.isDigit

def isWordPart (c : Char) : Bool := isTagPart c || c = '$'

def isSign (c : Char) : Bool := c = '+' || c = '-'

/-- What no standard operator has. -/
def isSpecial (c : Char) : Bool := ['~', '!', '@', '#', '^', '&', '|', '\x60', '?', '%'].contains c

def isOperatorPart (c : Char) : Bool :=
  isSign c || isSpecial c || ['*', '/', '<', '>', '='].contains c

/-- A comment begins here. -/
def startsComment : List Char → Bool
  | '-' :: '-' :: _ => true
  | '/' :: '*' :: _ => true
  | _ => false

end Characters

section Splits

/-- The rest of a block comment, with the number of comments that it is inside of. -/
def splitNested : Nat → List Char → List Char × List Char
  | _, [] => ([], [])
  | _, [c] => ([c], [])
  | depth, c :: d :: rest =>
      if c = '/' ∧ d = '*' then
        let (run, after) := splitNested (depth + 1) rest
        (c :: d :: run, after)
      else if c = '*' ∧ d = '/' then
        match depth with
        | 0 => ([c, d], rest)
        | depth + 1 =>
            let (run, after) := splitNested depth rest
            (c :: d :: run, after)
      else
        let (run, after) := splitNested depth (d :: rest)
        (c :: run, after)

def splitEscaped : List Char → List Char × List Char
  | [] => ([], [])
  | [c] => ([c], [])
  | c :: d :: rest =>
      if c = '\\' ∨ (c = '\'' ∧ d = '\'') then
        let (run, after) := splitEscaped rest
        (c :: d :: run, after)
      else if c = '\'' then ([c], d :: rest)
      else
        let (run, after) := splitEscaped (d :: rest)
        (c :: run, after)

def splitTag (tag : List Char) : List Char → List Char × List Char
  | [] => ([], [])
  | c :: rest =>
      if tag.isPrefixOf (c :: rest) then (tag, (c :: rest).drop tag.length)
      else
        let (run, after) := splitTag tag rest
        (c :: run, after)

/-- Operator characters up to a comment. -/
def splitOperator : List Char → List Char × List Char
  | [] => ([], [])
  | c :: rest =>
      if isOperatorPart c ∧ startsComment (c :: rest) = false then
        let (run, after) := splitOperator rest
        (c :: run, after)
      else ([], c :: rest)

/-- The last signs of an operator are operators of their own. `c` is its first character. -/
def trimSigns (c : Char) (run : List Char) : List Char × List Char :=
  if (c :: run).any isSpecial then (run, [])
  else (run.rdropWhile isSign, run.rtakeWhile isSign)

/-- The opening tag of a dollar-quoted constant after its first dollar, and what follows it. -/
def dollarTag (rest : List Char) : Option (List Char × List Char) :=
  match rest.takeWhile isTagPart, rest.dropWhile isTagPart with
  | tag, '$' :: inner =>
      if tag.head?.any Char.isDigit then none else some (tag ++ ['$'], inner)
  | _, _ => none

end Splits

section Lexer

/-- What opens a constant or a quoted identifier, and what follows it. `continues` says that an
escaped constant goes on here. -/
def opening (continues : Bool) : List Char → Option (LexKind × List Char × List Char)
  | '\'' :: inner => some (if continues then .escaped else .constant, ['\''], inner)
  | '"' :: inner => some (.identifier, ['"'], inner)
  | c :: '\'' :: inner =>
      if c = 'e' ∨ c = 'E' then some (.escaped, [c, '\''], inner)
      else if c ∈ ['b', 'B', 'n', 'N', 'x', 'X'] then some (.constant, [c, '\''], inner)
      else none
  | c :: '&' :: d :: inner =>
      if c = 'u' ∨ c = 'U' then
        if d = '\'' then some (.constant, [c, '&', d], inner)
        else if d = '"' then some (.identifier, [c, '&', d], inner)
        else none
      else none
  | _ => none

def closing (kind : LexKind) (inner : List Char) : List Char × List Char :=
  match kind with
  | .escaped => splitEscaped inner
  | .identifier => Token.splitQuoted '"' inner
  | _ => Token.splitQuoted '\'' inner

/-- The first lexeme of a text that opens neither a constant nor a quoted identifier. -/
def nextCode (c : Char) (rest : List Char) : Lexeme × List Char :=
  if isWordStart c then
    (⟨.word, c :: rest.takeWhile isWordPart⟩, rest.dropWhile isWordPart)
  else if c.isDigit then
    (⟨.word, c :: rest.takeWhile isTagPart⟩, rest.dropWhile isTagPart)
  else if isSpace c then (⟨.space, [c]⟩, rest)
  else if c = '$' then
    match dollarTag rest with
    | some (tag, inner) =>
        let (run, after) := splitTag (c :: tag) inner
        (⟨.dollar, c :: (tag ++ run)⟩, after)
    | none => (⟨.other, [c]⟩, rest)
  else
    match c, rest with
    | '-', '-' :: rest =>
        (⟨.line, '-' :: '-' :: rest.takeWhile (!isNewline ·)⟩, rest.dropWhile (!isNewline ·))
    | '/', '*' :: rest =>
        let (run, after) := splitNested 0 rest
        (⟨.block, '/' :: '*' :: run⟩, after)
    | c, rest =>
        if isOperatorPart c then
          let (run, after) := splitOperator rest
          let (run, signs) := trimSigns c run
          (⟨.operator, c :: run⟩, signs ++ after)
        else (⟨.other, [c]⟩, rest)

/-- The first lexeme of a text, and what follows it. -/
def next (continues : Bool) (c : Char) (rest : List Char) : Lexeme × List Char :=
  match opening continues (c :: rest) with
  | some (kind, lead, inner) =>
      let (run, after) := closing kind inner
      (⟨kind, lead ++ run⟩, after)
  | none => nextCode c rest

end Lexer

section Texts

theorem splitNested_append
    (depth : Nat)
    (cs : List Char) :
    (splitNested depth cs).1 ++ (splitNested depth cs).2 = cs := by
  fun_induction splitNested depth cs <;> simp_all

theorem splitEscaped_append
    (cs : List Char) :
    (splitEscaped cs).1 ++ (splitEscaped cs).2 = cs := by
  fun_induction splitEscaped cs <;> simp_all

theorem splitTag_append
    (tag cs : List Char) :
    (splitTag tag cs).1 ++ (splitTag tag cs).2 = cs := by
  fun_induction splitTag tag cs with
  | case1 => rfl
  | case2 c rest htag => exact List.prefix_iff_eq_append.mp (List.isPrefixOf_iff_prefix.mp htag)
  | case3 c rest htag run after hsplit ih => simp_all

theorem splitOperator_append
    (cs : List Char) :
    (splitOperator cs).1 ++ (splitOperator cs).2 = cs := by
  fun_induction splitOperator cs <;> simp_all

theorem trimSigns_append
    (c : Char)
    (run : List Char) :
    (trimSigns c run).1 ++ (trimSigns c run).2 = run := by
  unfold trimSigns
  split <;> simp [List.rdropWhile_append_rtakeWhile]

theorem dollarTag_append
    {rest tag inner : List Char}
    (htag : dollarTag rest = some (tag, inner)) :
    tag ++ inner = rest := by
  unfold dollarTag at htag
  split at htag
  · rename_i hdollar
    split_ifs at htag
    cases htag
    have happend := List.takeWhile_append_dropWhile (p := isTagPart) (l := rest)
    rw [hdollar] at happend
    simpa using happend
  · cases htag

theorem opening_append
    {continues : Bool}
    {cs lead inner : List Char}
    {kind : LexKind}
    (hopening : opening continues cs = some (kind, lead, inner)) :
    lead ++ inner = cs := by
  unfold opening at hopening
  split at hopening <;> (try split_ifs at hopening) <;> cases hopening <;> rfl

theorem closing_append
    (kind : LexKind)
    (inner : List Char) :
    (closing kind inner).1 ++ (closing kind inner).2 = inner := by
  unfold closing
  split
  · exact splitEscaped_append inner
  · exact Token.splitQuoted_append _ inner
  · exact Token.splitQuoted_append _ inner

theorem text_nextCode
    (c : Char)
    (rest : List Char) :
    (nextCode c rest).1.text ++ (nextCode c rest).2 = c :: rest := by
  unfold nextCode
  split_ifs
  · simp
  · simp
  · rfl
  · split
    · rename_i tag inner htag
      simp [splitTag_append, dollarTag_append htag]
    · rfl
  · split
    · simp
    · simp [splitNested_append]
    · split_ifs
      · simp [← List.append_assoc, trimSigns_append, splitOperator_append]
      · rfl

/-- The first lexeme of a text and what follows it are the text. -/
theorem text_next
    (continues : Bool)
    (c : Char)
    (rest : List Char) :
    (next continues c rest).1.text ++ (next continues c rest).2 = c :: rest := by
  unfold next
  split
  · rename_i kind lead inner hopening
    simp [closing_append, opening_append hopening]
  · exact text_nextCode c rest

theorem text_nextCode_ne_nil
    (c : Char)
    (rest : List Char) :
    (nextCode c rest).1.text ≠ [] := by
  unfold nextCode
  split_ifs <;> (try split) <;> (try split_ifs) <;> simp

theorem text_next_ne_nil
    (continues : Bool)
    (c : Char)
    (rest : List Char) :
    (next continues c rest).1.text ≠ [] := by
  unfold next
  split
  · rename_i kind lead inner hopening
    have hlead : lead ≠ [] := by
      unfold opening at hopening
      split at hopening <;> (try split_ifs at hopening) <;> cases hopening <;> simp
    simp [hlead]
  · exact text_nextCode_ne_nil c rest

theorem length_next
    (continues : Bool)
    (c : Char)
    (rest : List Char) :
    (next continues c rest).2.length < (c :: rest).length := by
  have hpos := List.length_pos_iff.mpr (text_next_ne_nil continues c rest)
  rw [← text_next continues c rest, List.length_append]
  omega

end Texts

section Lex

/-- Whether an escaped constant can go on after a lexeme, and whether a line has ended since. -/
def goesOn (since : Option Bool) (lexeme : Lexeme) : Option Bool :=
  match lexeme.kind with
  | .escaped => some false
  | .line => since
  | .space => since.map (· || lexeme.text.any isNewline)
  | _ => none

end Lex
end Lexeme

/-- The lexemes of a text. `since` is none at the beginning. -/
def lex (since : Option Bool) (cs : List Char) : List Lexeme :=
  match cs with
  | [] => []
  | c :: rest =>
      (Lexeme.next (since == some true) c rest).1 ::
        lex (Lexeme.goesOn since (Lexeme.next (since == some true) c rest).1)
          (Lexeme.next (since == some true) c rest).2
termination_by cs.length
decreasing_by exact Lexeme.length_next _ c rest

/-- The lexemes of a text, one after the other, are the text. -/
theorem flatMap_text_lex
    (since : Option Bool)
    (cs : List Char) :
    (lex since cs).flatMap Lexeme.text = cs := by
  fun_induction lex since cs with
  | case1 => rfl
  | case2 since c rest ih => rw [List.flatMap_cons, ih, Lexeme.text_next]

end Sql
end QueryBatch
