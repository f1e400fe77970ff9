import QueryBatch.Proofs.Sql.Binding

/-!
# Statements that are built piece by piece

A statement is put together from texts that are taken as they are, from identifiers and from values.
The number of a value is its place among the values, so the number of the last placeholder is the
number of values (`Numbered`). An identifier stands between double quotes, with those inside of it
doubled. Whatever it holds, its first quote opens a quoted run that ends at its last one, unless a
quote follows, and the identifier is what the run holds (`undoubled_doubled`).
-/

namespace QueryBatch
namespace Sql

section Defs

/-- What a statement is put together from. -/
inductive Part
  /-- A text that is taken as it is. -/
  | verbatim (text : String)
  | identifier (name : String)
  | value (value : Param)

def append (sql : Sql) : Part → Sql
  | .verbatim text => sql.appendSyntax text
  | .identifier name => sql.appendIdentifier name
  | .value value => sql.appendParam value

def appendAll (sql : Sql) (parts : List Part) : Sql := parts.foldl append sql

/-- The number of the last placeholder is the number of values. -/
def Numbered (sql : Sql) : Prop := sql.paramIndex = sql.params.length

/-- Characters with their double quotes doubled. -/
def doubled (cs : List Char) : List Char := cs.flatMap fun c => if c = '"' then ['"', '"'] else [c]

/-- Characters with one double quote for two. -/
def undoubled : List Char → List Char
  | [] => []
  | [c] => [c]
  | c :: d :: rest =>
      if c = '"' ∧ d = '"' then '"' :: undoubled rest else c :: undoubled (d :: rest)

/-- The place behind all that was written. -/
def place (sql : Sql) : Nat := sql.text.utf8ByteSize

/-- Between two places of a text an identifier is quoted, and the run that its first quote opens
ends with its last one. -/
structure Encloses (text : String) (start stop : Nat) (name : String) : Prop where
  opening : Scanner.octet? text start = some '"'.toUInt8
  ends : Scanner.quotedEnd text '"'.toUInt8 (start + 1) = stop
  closing : start + 1 < stop ∧ Scanner.octet? text (stop - 1) = some '"'.toUInt8
  content : undoubled (Scanner.slice text (start + 1) (stop - 1)).toList = name.toList

end Defs

section Values

variable {sql : Sql}

theorem numbered_empty : empty.Numbered := rfl

theorem numbered_positional
    (text : String)
    (params : List Param) :
    (positional text params).Numbered :=
  rfl

theorem Numbered.append
    (hnumbered : sql.Numbered)
    (part : Part) :
    (sql.append part).Numbered := by
  cases part with
  | verbatim text => exact hnumbered
  | identifier name => exact hnumbered
  | value value => simpa [Numbered, Sql.append, appendParam] using hnumbered

theorem Numbered.appendAll
    (hnumbered : sql.Numbered)
    (parts : List Part) :
    (sql.appendAll parts).Numbered := by
  induction parts generalizing sql with
  | nil => exact hnumbered
  | cons part parts ih => exact ih (hnumbered.append part)

theorem params_append
    (sql : Sql)
    (part : Part) :
    sql.params <+: (sql.append part).params := by
  cases part with
  | verbatim text => exact List.prefix_rfl
  | identifier name => exact List.prefix_rfl
  | value value => exact List.prefix_append _ _

/-- Values keep their places. -/
theorem params_appendAll
    (sql : Sql)
    (parts : List Part) :
    sql.params <+: (sql.appendAll parts).params := by
  induction parts generalizing sql with
  | nil => exact List.prefix_rfl
  | cons part parts ih => exact (params_append sql part).trans (ih _)

theorem appendAll_append
    (sql : Sql)
    (before after : List Part) :
    sql.appendAll (before ++ after) = (sql.appendAll before).appendAll after :=
  List.foldl_append

/-- A value gets the next number, and is found under it whatever is appended later. -/
theorem Numbered.append_value
    (hnumbered : sql.Numbered)
    (value : Param)
    (parts : List Part) :
    sql.append (.value value)
        = ⟨sql.text ++ "$" ++ toString (sql.params.length + 1), sql.params ++ [value],
            sql.params.length + 1⟩ ∧
      ((sql.append (.value value)).appendAll parts).params[sql.params.length]? = some value := by
  have hvalue : sql.append (.value value)
      = ⟨sql.text ++ "$" ++ toString (sql.params.length + 1), sql.params ++ [value],
          sql.params.length + 1⟩ := by
    rw [← hnumbered]
    rfl
  refine ⟨hvalue, ?_⟩
  obtain ⟨later, hlater⟩ := params_appendAll (sql.append (.value value)) parts
  rw [← hlater, hvalue]
  simp

end Values

section Quotes

/-- A character that is no quote belongs to the run. -/
theorem splitQuoted_cons_of_ne
    {quote c : Char}
    (hc : c ≠ quote)
    (rest : List Char) :
    Token.splitQuoted quote (c :: rest)
      = (c :: (Token.splitQuoted quote rest).1, (Token.splitQuoted quote rest).2) := by
  cases rest with
  | nil => rfl
  | cons d rest => simp [Token.splitQuoted, hc]

/-- With its quotes doubled a text ends no run, and the quote behind it does. -/
theorem splitQuoted_doubled
    (cs : List Char)
    {tail : List Char}
    (htail : tail.head? ≠ some '"') :
    Token.splitQuoted '"' (doubled cs ++ '"' :: tail) = (doubled cs ++ ['"'], tail) := by
  induction cs with
  | nil =>
    cases tail with
    | nil => rfl
    | cons d tail =>
      have hd : d ≠ '"' := by simpa using htail
      simp [doubled, Token.splitQuoted, hd]
  | cons c cs ih =>
    by_cases hc : c = '"'
    · subst hc
      have hdoubled : doubled ('"' :: cs) = '"' :: '"' :: doubled cs := rfl
      simp [hdoubled, Token.splitQuoted, ih]
    · have hdoubled : doubled (c :: cs) = c :: doubled cs := by simp [doubled, hc]
      rw [hdoubled, List.cons_append, splitQuoted_cons_of_ne hc, ih, List.cons_append]

theorem undoubled_cons_of_ne
    {c : Char}
    (hc : c ≠ '"')
    (rest : List Char) :
    undoubled (c :: rest) = c :: undoubled rest := by
  cases rest with
  | nil => rfl
  | cons d rest => simp [undoubled, hc]

theorem undoubled_doubled
    (cs : List Char) :
    undoubled (doubled cs) = cs := by
  induction cs with
  | nil => rfl
  | cons c cs ih =>
    by_cases hc : c = '"'
    · subst hc
      have hdoubled : doubled ('"' :: cs) = '"' :: '"' :: doubled cs := rfl
      simp [hdoubled, undoubled, ih]
    · have hdoubled : doubled (c :: cs) = c :: doubled cs := by simp [doubled, hc]
      rw [hdoubled, undoubled_cons_of_ne hc, ih]

theorem quoteIdentifier_eq
    (cs : List Char) :
    quoteIdentifier cs = '"' :: (doubled cs ++ ['"']) :=
  rfl

/-- A quoted identifier is the first token of a text that begins with it. -/
theorem next_quoteIdentifier
    (cs : List Char)
    {tail : List Char}
    (htail : tail.head? ≠ some '"') :
    Token.next '"' (doubled cs ++ '"' :: tail) = (.quoted (quoteIdentifier cs), tail) := by
  unfold Token.next
  rw [if_pos (Or.inr rfl), splitQuoted_doubled cs htail]
  rfl

/-- A quoted identifier is a token of its own wherever tokens begin. -/
theorem scan_quoteIdentifier
    (cs : List Char)
    {tail : List Char}
    (htail : tail.head? ≠ some '"') :
    Token.scan (quoteIdentifier cs ++ tail)
      = .quoted (quoteIdentifier cs) :: Token.scan tail := by
  have htext : quoteIdentifier cs ++ tail = '"' :: (doubled cs ++ '"' :: tail) := by
    simp [quoteIdentifier_eq]
  rw [htext, Token.scan, next_quoteIdentifier cs htail]

end Quotes

section Places

open Scanner

variable {sql : Sql} {name tail : String}

theorem place_eq
    (sql : Sql) :
    sql.place = (octets sql.text.toList).length := by
  rw [place, ← utf8ByteSize_ofList, String.ofList_toList]

/-- A statement with an identifier behind it and a text behind that. -/
theorem text_appendIdentifier
    (sql : Sql)
    (name tail : String) :
    ((sql.appendIdentifier name).appendSyntax tail).text
      = String.ofList (sql.text.toList ++ (quoteIdentifier name.toList ++ tail.toList)) := by
  rw [← String.toList_inj]
  simp [appendIdentifier, appendSyntax]

theorem place_appendIdentifier
    (sql : Sql)
    (name : String) :
    (sql.appendIdentifier name).place = sql.place + ((octets (doubled name.toList)).length + 2) := by
  have hquote := utf8EncodeChar_ascii (by decide : '"'.toNat < 128)
  simp only [place_eq, appendIdentifier, appendSyntax, String.toList_append, String.toList_ofList,
    quoteIdentifier_eq, octets_append, octets_cons, octets_nil, hquote, List.length_append,
    List.length_cons, List.length_nil]
  omega

/-- The octets from the place on at which an identifier is written. -/
theorem remaining_appendIdentifier
    (sql : Sql)
    (name tail : String) :
    Remaining ((sql.appendIdentifier name).appendSyntax tail).text sql.place
      ('"'.toUInt8 :: octets (doubled name.toList ++ '"' :: tail.toList)) := by
  have hremaining := remaining_ofList sql.text.toList (quoteIdentifier name.toList ++ tail.toList)
  rw [← text_appendIdentifier, ← place_eq, quoteIdentifier_eq, List.cons_append,
    octets_cons_ascii (by decide), List.append_assoc] at hremaining
  exact hremaining

/-- An identifier cannot leave its quotes, and takes nothing of what follows it. -/
theorem encloses_appendIdentifier
    (sql : Sql)
    (name : String)
    {tail : String}
    (htail : tail.toList.head? ≠ some '"') :
    Encloses ((sql.appendIdentifier name).appendSyntax tail).text sql.place
      (sql.appendIdentifier name).place name := by
  have hremaining := remaining_appendIdentifier sql name tail
  have hstop := place_appendIdentifier sql name
  have hquote := octets_cons_ascii (by decide : '"'.toNat < 128)
  constructor
  · exact hremaining.octet?_head
  · rw [quotedEnd_octets (by decide) _ _ hremaining.tail, splitQuoted_doubled _ htail, hstop,
      octets_append, hquote, List.length_append, octets_nil, List.length_singleton]
    omega
  · have hclosing := hremaining.tail
    rw [octets_append, hquote] at hclosing
    have hlast : (sql.appendIdentifier name).place - 1
        = sql.place + 1 + (octets (doubled name.toList)).length := by omega
    rw [hlast]
    exact ⟨by omega, hclosing.append.octet?_head⟩
  · have hpart := slice_ofList (sql.text.toList ++ ['"']) (doubled name.toList) ('"' :: tail.toList)
    have hopening : (octets (sql.text.toList ++ ['"'])).length = sql.place + 1 := by
      rw [octets_append, hquote, List.length_append, octets_nil, ← place_eq]
      rfl
    have htext : sql.text.toList ++ ['"'] ++ doubled name.toList ++ '"' :: tail.toList
        = sql.text.toList ++ (quoteIdentifier name.toList ++ tail.toList) := by
      simp [quoteIdentifier_eq]
    rw [hopening, htext, ← text_appendIdentifier] at hpart
    have hclosing : sql.place + 1 + (octets (doubled name.toList)).length
        = (sql.appendIdentifier name).place - 1 := by omega
    rw [← hclosing, hpart, String.toList_ofList, undoubled_doubled]

end Places

section Result

/-- A statement is put together from parts, from nothing or from a finished text with its values.
After every part the number of the last placeholder is the number of values. Each value is written
as its place among the values, and stays there. An identifier is one quoted run that ends with its
last quote, whatever stands before it and whatever but a quote stands behind it, and it is what the
run holds. -/
theorem values_are_numbered_and_identifiers_enclosed
    {start : Sql}
    (hstart : start = empty ∨ ∃ text params, start = positional text params)
    (parts : List Part) :
    (∀ before, before <+: parts →
        (start.appendAll before).paramIndex = (start.appendAll before).params.length) ∧
      (∀ before value after, parts = before ++ .value value :: after →
        let sql := start.appendAll before
        let k := sql.params.length + 1
        start.appendAll (before ++ [.value value])
            = ⟨sql.text ++ "$" ++ toString k, sql.params ++ [value], k⟩ ∧
          (start.appendAll parts).params[k - 1]? = some value) ∧
      ∀ (sql : Sql) (name tail : String), tail.toList.head? ≠ some '"' →
        Encloses ((sql.appendIdentifier name).appendSyntax tail).text sql.place
            (sql.appendIdentifier name).place name ∧
          Token.scan (quoteIdentifier name.toList ++ tail.toList)
            = .quoted (quoteIdentifier name.toList) :: Token.scan tail.toList := by
  have hnumbered : start.Numbered := by
    rcases hstart with rfl | ⟨text, params, rfl⟩
    · exact numbered_empty
    · exact numbered_positional text params
  refine ⟨fun before _ => hnumbered.appendAll before, ?_, ?_⟩
  · rintro before value after rfl
    have hvalue := (hnumbered.appendAll before).append_value value after
    rw [appendAll_append, appendAll_append]
    exact hvalue
  · intro sql name tail htail
    exact ⟨encloses_appendIdentifier sql name htail, scan_quoteIdentifier _ htail⟩

/-- A finished text goes on with an identifier that ends with a quote, and with a value. -/
theorem values_are_numbered_and_identifiers_enclosed_awkwardly :
    let start := positional "SELECT $1, " [.int 7]
    let parts := [.identifier "a\"; é\"", .verbatim " = ", .value .null]
    start.appendAll parts
        = ⟨"SELECT $1, \"a\"\"; é\"\"\" = $2", [.int 7, .null], 2⟩ ∧
      (start.appendAll parts).params[1]? = some .null ∧
      (start.appendAll parts).paramIndex = (start.appendAll parts).params.length ∧
      Encloses "SELECT $1, \"a\"\"; é\"\"\" = $2" 11 22 "a\"; é\"" := by
  intro start parts
  obtain ⟨hindex, hvalue, hname⟩ :=
    values_are_numbered_and_identifiers_enclosed (.inr ⟨_, _, rfl⟩ : start = empty ∨ _) parts
  obtain ⟨-, hplace⟩ := hvalue [_, _] .null [] rfl
  have hbuilt : start.appendAll parts
      = ⟨"SELECT $1, \"a\"\"; é\"\"\" = $2", [.int 7, .null], 2⟩ := by
    cbv
  obtain ⟨henclosed, -⟩ := hname start "a\"; é\"" " = $2" (by decide)
  exact ⟨hbuilt, hplace, hindex parts List.prefix_rfl, henclosed⟩

end Result
end Sql
end QueryBatch
