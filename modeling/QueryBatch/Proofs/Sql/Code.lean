import QueryBatch.Proofs.Sql.Skipping

/-!
# Placeholders are code

The tokens of a legible text were cut like its lexemes, but for the names of placeholders. So every
placeholder stands where the database reads a lone at sign and a word, and binding rewrites nothing
else. `placeholders_outside_of_code` has a text that is not legible.
-/

namespace QueryBatch
namespace Sql

section Defs

/-- Tokens that were cut like lexemes, but for the names of placeholders. -/
inductive Agree : List Lexeme → List Token → Prop
  | nil : Agree [] []
  | skip {run lexemes : List Lexeme} {tokens rest : List Token} (hnames : namesOf tokens = [])
      (htext : textOf run = tokens.flatMap Token.text) (hrest : Agree lexemes rest) :
      Agree (run ++ lexemes) (tokens ++ rest)
  | name {name tail : List Char} {lexemes : List Lexeme} {rest : List Token}
      (hrest : Agree lexemes rest) :
      Agree (⟨.operator, ['@']⟩ :: ⟨.word, name ++ tail⟩ :: lexemes)
        (.placeholder name :: (tail.map .plain ++ rest))

/-- After `before`, the database reads a lone at sign and a word that begins with `name`. -/
def IsCode (lexemes : List Lexeme) (before name : List Char) : Prop :=
  ∃ run tail rest, textOf run = before ∧
    lexemes = run ++ ⟨.operator, ['@']⟩ :: ⟨.word, name ++ tail⟩ :: rest

end Defs

section Agreement

theorem IsCode.append
    {lexemes : List Lexeme}
    {before name : List Char}
    (hcode : IsCode lexemes before name)
    (first : List Lexeme) :
    IsCode (first ++ lexemes) (textOf first ++ before) name := by
  obtain ⟨run, tail, rest, rfl, rfl⟩ := hcode
  exact ⟨first ++ run, tail, rest, List.flatMap_append, by simp⟩

theorem not_mem_of_namesOf
    {tokens : List Token}
    (hnames : namesOf tokens = [])
    (name : List Char) :
    .placeholder name ∉ tokens := by
  intro hmem
  have hname : String.ofList name ∈ namesOf tokens := List.mem_filterMap.mpr ⟨_, hmem, rfl⟩
  simp [hnames] at hname

/-- A placeholder after tokens without placeholders stands in what follows them. -/
theorem split_of_namesOf
    {tokens rest before after : List Token}
    {name : List Char}
    (hnames : namesOf tokens = [])
    (hsplit : tokens ++ rest = before ++ .placeholder name :: after) :
    ∃ later, before = tokens ++ later ∧ rest = later ++ .placeholder name :: after := by
  rcases List.append_eq_append_iff.mp hsplit with ⟨later, rfl, hrest⟩ | ⟨later, htokens, hrest⟩
  · exact ⟨later, rfl, hrest⟩
  · cases later with
    | nil => exact ⟨[], by simpa using htokens.symm, hrest.symm⟩
    | cons token later =>
      obtain rfl : Token.placeholder name = token := (List.cons.inj hrest).1
      exact absurd (htokens ▸ by simp) (not_mem_of_namesOf hnames name)

theorem Agree.isCode
    {lexemes : List Lexeme}
    {tokens before after : List Token}
    {name : List Char}
    (hagree : Agree lexemes tokens)
    (hsplit : tokens = before ++ .placeholder name :: after) :
    IsCode lexemes (before.flatMap Token.text) name := by
  induction hagree generalizing before with
  | nil => simp at hsplit
  | @skip run lexemes tokens rest hnames htext hrest ih =>
    obtain ⟨later, rfl, hlater⟩ := split_of_namesOf hnames hsplit
    rw [List.flatMap_append, ← htext]
    exact (ih hlater).append run
  | @name first tail lexemes rest hrest ih =>
    cases before with
    | nil =>
      obtain ⟨hname, -⟩ := List.cons.inj hsplit
      cases hname
      exact ⟨[], tail, lexemes, rfl, rfl⟩
    | cons token before =>
      obtain ⟨rfl, htokens⟩ := List.cons.inj hsplit
      obtain ⟨later, rfl, hlater⟩ := split_of_namesOf (namesOf_plain tail) htokens
      have htail : (tail.map Token.plain).flatMap Token.text = tail := by
        induction tail <;> simp_all [Token.text]
      have hcode := (ih hlater).append [⟨.operator, ['@']⟩, ⟨.word, first ++ tail⟩]
      simpa [textOf, htail, Token.text] using hcode

end Agreement

section Lexing

open Lexeme

variable {continues : Bool} {c : Char} {rest : List Char}

theorem Skips.agree
    {run after : List Char}
    {first lexemes : List Lexeme}
    (hskips : Skips run after)
    (hrun : textOf first = run)
    (hagree : Agree lexemes (Token.scan after)) :
    Agree (first ++ lexemes) (Token.scan (run ++ after)) := by
  obtain ⟨tokens, hscan, hnames⟩ := hskips
  rw [hscan]
  refine .skip hnames ?_ hagree
  have htext := Token.flatMap_text_scan (run ++ after)
  rw [hscan, List.flatMap_append, Token.flatMap_text_scan] at htext
  rw [hrun, List.append_cancel_right htext]

theorem next_line
    (continues : Bool)
    (c : Char)
    (rest : List Char)
    (hkind : (next continues c rest).1.kind = .line) :
    ∃ run, (next continues c rest).1.text = '-' :: '-' :: run ∧
      ∀ d ∈ run, Token.isLinePart d = true := by
  revert hkind
  unfold next
  split
  · rename_i kind lead inner hopening
    obtain ⟨first, quote, -, -, hkind⟩ := opening_spec hopening
    rintro rfl
    simp at hkind
  · unfold nextCode
    split_ifs <;> (try split) <;> (try split_ifs) <;> intro hkind <;> cases hkind
    refine ⟨_, rfl, fun d hd => isLinePart_of_not_isNewline ?_⟩
    simpa using List.mem_takeWhile_imp hd

theorem next_word
    (hstart : Token.isNameStart c = true)
    (hkind : (next continues c rest).1.kind = .word) :
    next continues c rest
      = (⟨.word, c :: rest.takeWhile isWordPart⟩, rest.dropWhile isWordPart) := by
  revert hkind
  unfold next
  split
  · rename_i kind lead inner hopening
    obtain ⟨first, quote, -, -, hkind⟩ := opening_spec hopening
    rintro rfl
    simp at hkind
  · intro _
    have hword : isWordStart c = true := by
      simp only [Token.isNameStart, Bool.or_eq_true] at hstart
      simp only [isWordStart, Bool.or_eq_true]
      exact .inl hstart
    unfold nextCode
    rw [if_pos hword]

theorem isWordPart_of_isNamePart
    (hc : Token.isNamePart c = true) :
    isWordPart c = true := by
  simp only [Token.isNamePart, Char.isAlphanum, Bool.or_eq_true, decide_eq_true_eq] at hc
  simp only [isWordPart, isTagPart, isWordStart, Bool.or_eq_true, decide_eq_true_eq]
  tauto

/-- The name of a placeholder is the beginning of a word. -/
theorem scan_name
    (rest : List Char)
    (hstart : Token.isNameStart c = true) :
    ∃ name tail, c :: rest.takeWhile isWordPart = name ++ tail ∧
      Token.scan ('@' :: c :: rest)
        = .placeholder name :: (tail.map .plain ++ Token.scan (rest.dropWhile isWordPart)) := by
  have hname : ∀ d ∈ rest.takeWhile Token.isNamePart, isWordPart d = true := fun d hd =>
    isWordPart_of_isNamePart (List.mem_takeWhile_imp hd)
  have htake : rest.takeWhile isWordPart = rest.takeWhile Token.isNamePart
      ++ (rest.dropWhile Token.isNamePart).takeWhile isWordPart :=
    calc rest.takeWhile isWordPart
        = (rest.takeWhile Token.isNamePart ++ rest.dropWhile Token.isNamePart).takeWhile
            isWordPart := by rw [List.takeWhile_append_dropWhile]
      _ = _ := List.takeWhile_append_of_pos hname
  have hdrop : rest.dropWhile isWordPart
      = (rest.dropWhile Token.isNamePart).dropWhile isWordPart :=
    calc rest.dropWhile isWordPart
        = (rest.takeWhile Token.isNamePart ++ rest.dropWhile Token.isNamePart).dropWhile
            isWordPart := by rw [List.takeWhile_append_dropWhile]
      _ = _ := List.dropWhile_append_of_pos hname
  refine ⟨c :: rest.takeWhile Token.isNamePart,
    (rest.dropWhile Token.isNamePart).takeWhile isWordPart, by rw [htake]; rfl, ?_⟩
  have hinert : ∀ d ∈ (rest.dropWhile Token.isNamePart).takeWhile isWordPart,
      Token.isInert d = true := fun d hd => isInert_wordPart (List.mem_takeWhile_imp hd)
  have hnext : Token.next '@' (c :: rest)
      = (.placeholder (c :: rest.takeWhile Token.isNamePart), rest.dropWhile Token.isNamePart) := by
    simp [Token.next, hstart]
  rw [Token.scan, hnext, hdrop, ← Token.scan_of_inert hinert, List.takeWhile_append_dropWhile]

/-- A line comment takes a carriage return before the line feed with it. -/
theorem agree_line
    {since : Option Bool}
    {run more : List Char}
    (hrun : ∀ d ∈ run, Token.isLinePart d = true)
    (hlegible : Legible (lex since ('\r' :: '\n' :: more)))
    (hagree : ∀ since, Legible (lex since ('\n' :: more)) →
      Agree (lex since ('\n' :: more)) (Token.scan ('\n' :: more))) :
    Agree (⟨.line, '-' :: '-' :: run⟩ :: lex since ('\r' :: '\n' :: more))
      (Token.scan ('-' :: '-' :: run ++ '\r' :: '\n' :: more)) := by
  have hskips : Skips ('-' :: '-' :: (run ++ ['\r'])) ('\n' :: more) := by
    refine Skips.line (fun d hd => ?_) fun d hd => ?_
    · rcases List.mem_append.mp hd with hd | hd
      · exact hrun d hd
      · rw [List.mem_singleton.mp hd]
        decide
    · obtain rfl := Option.some.inj hd
      decide
  have hspace : Lexeme.next (since == some true) '\r' ('\n' :: more)
      = (⟨.space, ['\r']⟩, '\n' :: more) := by
    rfl
  rw [lex, hspace] at hlegible ⊢
  have htext : textOf [⟨.line, '-' :: '-' :: run⟩, ⟨.space, ['\r']⟩]
      = '-' :: '-' :: (run ++ ['\r']) := by
    simp [textOf]
  simpa using hskips.agree htext (hagree _ hlegible.2)

theorem agree_name
    {since : Option Bool}
    (hstart : Token.isNameStart c = true)
    (hword : (lex since (c :: rest)).head?.map Lexeme.kind = some .word)
    (hlegible : Legible (lex since (c :: rest)))
    (hagree : ∀ since, Legible (lex since (rest.dropWhile isWordPart)) →
      Agree (lex since (rest.dropWhile isWordPart)) (Token.scan (rest.dropWhile isWordPart))) :
    Agree (⟨.operator, ['@']⟩ :: lex since (c :: rest)) (Token.scan ('@' :: c :: rest)) := by
  rw [lex] at hword hlegible ⊢
  rw [next_word hstart (Option.some.inj hword)] at hlegible ⊢
  obtain ⟨name, tail, hname, hscan⟩ := scan_name rest hstart
  rw [hname, hscan]
  exact .name (hagree _ hlegible.2)

/-- A legible lexeme before a text whose tokens were cut like its lexemes, as those of every shorter
text. -/
theorem agree_step
    {since : Option Bool}
    {lexeme : Lexeme}
    {after : List Char}
    (hnext : next continues c rest = (lexeme, after))
    (hfirst : lexeme.Legible (lex since after))
    (hlater : Legible (lex since after))
    (hagree : ∀ since more, more.length ≤ after.length → Legible (lex since more) →
      Agree (lex since more) (Token.scan more)) :
    Agree (lexeme :: lex since after) (Token.scan (c :: rest)) := by
  have htext : lexeme.text ++ after = c :: rest := by
    simpa [hnext] using text_next continues c rest
  rw [← htext]
  obtain ⟨kind, text⟩ := lexeme
  by_cases hline : kind = .line ∧ after.head? = some '\r'
  · obtain ⟨rfl, hreturn⟩ := hline
    obtain ⟨run, rfl, hrun⟩ : ∃ run, text = '-' :: '-' :: run ∧
        ∀ d ∈ run, Token.isLinePart d = true := by
      simpa [hnext] using next_line continues c rest
    obtain ⟨more, hmore⟩ := hfirst (by rwa [textOf, flatMap_text_lex])
    obtain rfl : after = '\r' :: '\n' :: more := by rwa [textOf, flatMap_text_lex] at hmore
    exact agree_line hrun hlater fun since => hagree since _ (by simp)
  by_cases hname : kind = .operator ∧ text.getLast? = some '@' ∧
      after.head?.any Token.isNameStart = true
  · obtain ⟨rfl, hlast, hstart⟩ := hname
    obtain ⟨rfl, hword⟩ := hfirst hlast (by rwa [textOf, flatMap_text_lex])
    cases after with
    | nil => simp at hstart
    | cons d more =>
      refine agree_name (by simpa using hstart) hword hlater fun since => hagree since _ ?_
      exact Nat.le_succ_of_le (List.dropWhile_sublist _).length_le
  have hskips : Skips text after := by
    refine skips_next hnext hfirst (fun hkind hhead => hline ⟨hkind, hhead⟩) fun hkind hlast => ?_
    exact Bool.eq_false_iff.mpr fun hhead => hname ⟨hkind, hlast, hhead⟩
  have hone : textOf [⟨kind, text⟩] = text := by simp [textOf]
  exact hskips.agree hone (hagree since after le_rfl hlater)

/-- Tokens of a legible text were cut like its lexemes. -/
theorem agree_lex
    {since : Option Bool}
    {cs : List Char}
    (hlegible : Legible (lex since cs)) :
    Agree (lex since cs) (Token.scan cs) := by
  induction hlength : cs.length using Nat.strong_induction_on generalizing since cs with
  | _ n ih =>
    subst hlength
    cases cs with
    | nil =>
      rw [lex, Token.scan]
      exact .nil
    | cons c rest =>
      rw [lex] at hlegible ⊢
      have hless := length_next (since == some true) c rest
      refine agree_step rfl hlegible.1 hlegible.2 fun since more hmore hlater => ?_
      exact ih more.length (hmore.trans_lt hless) hlater rfl

end Lexing

section Result

theorem mem_of_bind_error
    {text name : String}
    {args : NamedArgs}
    (herror : boundForm text args = .error ⟨name⟩) :
    ∃ before after,
      Token.scan text.toList = before ++ .placeholder name.toList :: after := by
  unfold boundForm at herror
  dsimp only at herror
  split at herror
  · rename_i missing hfind
    cases herror
    obtain ⟨token, htoken, hname⟩ := List.mem_filterMap.mp (List.mem_of_find?_eq_some hfind)
    cases token with
    | placeholder cs =>
      obtain rfl := Option.some.inj hname
      rw [String.toList_ofList]
      exact List.mem_iff_append.mp htoken
    | quoted _ => cases hname
    | comment _ => cases hname
    | plain _ => cases hname
  · cases herror

/-- In a legible text, what binding rewrites or misses a value for stands where the database reads a
lone at sign and a word. -/
theorem placeholders_are_code
    {text : String}
    (args : NamedArgs)
    (hlegible : Legible (lex none text.toList)) :
    (Arguments.named args).bind text = boundForm text args ∧
      (∀ before name after, Token.scan text.toList = before ++ .placeholder name :: after →
        IsCode (lex none text.toList) (before.flatMap Token.text) name) ∧
      (∀ name, (Arguments.named args).bind text = .error ⟨name⟩ →
        ∃ before, IsCode (lex none text.toList) before name.toList) := by
  have hagree := agree_lex hlegible
  have hbind : (Arguments.named args).bind text = boundForm text args :=
    bindNamed_eq_boundForm text args
  refine ⟨hbind, fun before name after hsplit => hagree.isCode hsplit, fun name herror => ?_⟩
  obtain ⟨before, after, hsplit⟩ := mem_of_bind_error (hbind.symm.trans herror)
  exact ⟨_, hagree.isCode hsplit⟩

theorem placeholders_are_code_after_constant :
    let text := "'@a'/*@b*/@c"
    let args : NamedArgs := ⟨[("c", .int 1)], by decide⟩
    (Arguments.named args).bind text = .ok ⟨"'@a'/*@b*/$1", [.int 1], 1⟩ ∧
      IsCode (lex none text.toList) "'@a'/*@b*/".toList ['c'] := by
  intro text args
  have hlex : lex none text.toList = [⟨.constant, ['\'', '@', 'a', '\'']⟩,
      ⟨.block, ['/', '*', '@', 'b', '*', '/']⟩, ⟨.operator, ['@']⟩, ⟨.word, ['c']⟩] := by
    cbv
  have hlegible : Legible (lex none text.toList) := by
    have hblock : ¬ ['/', '*'] <:+: ['@', 'b', '*', '/'] := by decide
    rw [hlex]
    exact ⟨trivial, hblock, fun _ _ => ⟨rfl, rfl⟩, trivial, trivial⟩
  obtain ⟨hbind, hcode, -⟩ := placeholders_are_code args hlegible
  refine ⟨hbind.trans (by cbv), ?_⟩
  have hscan : Token.scan text.toList = [.quoted ['\'', '@', 'a', '\''],
      .comment ['/', '*', '@', 'b', '*', '/']] ++ .placeholder ['c'] :: [] := by
    cbv
  exact hcode _ _ _ hscan

/-- A comment inside of a comment, a dollar-quoted constant, an operator that ends in an at sign and
an escaped quote. -/
theorem placeholders_outside_of_code :
    let text := "SELECT /* /* */ @a */ $$@b$$, v <@c, E'\\'@d'"
    let args : NamedArgs :=
      ⟨[("a", .int 1), ("b", .int 2), ("c", .int 3), ("d", .int 4)], by decide⟩
    (Arguments.named args).bind text = .ok
        ⟨"SELECT /* /* */ $1 */ $$$2$$, v <$3, E'\\'$4'", [.int 1, .int 2, .int 3, .int 4], 4⟩ ∧
      ∀ before name, ¬ IsCode (lex none text.toList) before name := by
  intro text args
  have hlone : (lex none text.toList).contains ⟨.operator, ['@']⟩ = false := by cbv
  refine ⟨(bindNamed_eq_boundForm text args).trans (by cbv), ?_⟩
  rintro before name ⟨run, tail, rest, -, heq⟩
  simp [heq] at hlone

end Result

end Sql
end QueryBatch
