import QueryBatch.Proofs.Sql.Lexemes

/-!
# Lexemes that tokens pass over

Tokens are coarser than lexemes: they know neither comments inside of comments nor escaped and
dollar-quoted constants, and an at sign before a name need not be an operator of its own. `Legible`
says that none of this makes a difference in a text. Then no placeholder begins inside of a lexeme,
and tokens break where it ends.
-/

namespace QueryBatch
namespace Sql

section Defs

/-- The text of some lexemes. -/
def textOf (lexemes : List Lexeme) : List Char := lexemes.flatMap Lexeme.text

/-- A lexeme is one to the tokens as well, before the lexemes `after`. -/
def Lexeme.Legible (lexeme : Lexeme) (after : List Lexeme) : Prop :=
  match lexeme.kind with
  | .block => ¬ ['/', '*'] <:+: lexeme.text.drop 2
  | .escaped => '\\' ∉ lexeme.text
  | .dollar => ∀ c ∈ lexeme.text, Token.isInert c = true
  -- tokens end a line comment at the line feed only
  | .line => (textOf after).head? = some '\r' → ∃ more, textOf after = '\r' :: '\n' :: more
  -- an at sign before a name is alone, and the name opens no constant
  | .operator =>
      lexeme.text.getLast? = some '@' → (textOf after).head?.any Token.isNameStart = true →
        lexeme.text = ['@'] ∧ after.head?.map Lexeme.kind = some .word
  | _ => True

/-- All lexemes are. -/
def Legible : List Lexeme → Prop
  | [] => True
  | lexeme :: after => lexeme.Legible after ∧ Legible after

/-- No placeholder begins in `run`, and tokens break at its end. -/
def Skips (run after : List Char) : Prop :=
  ∃ tokens, Token.scan (run ++ after) = tokens ++ Token.scan after ∧ namesOf tokens = []

end Defs

section Skipping

variable {run more after inner : List Char} {c quote : Char}

theorem namesOf_plain
    (cs : List Char) :
    namesOf (cs.map .plain) = [] := by
  induction cs with
  | nil => rfl
  | cons c cs ih => exact ih

theorem Skips.append
    (hrun : Skips run (more ++ after))
    (hmore : Skips more after) :
    Skips (run ++ more) after := by
  obtain ⟨first, hfirst, hnames⟩ := hrun
  obtain ⟨second, hsecond, hnone⟩ := hmore
  refine ⟨first ++ second, ?_, ?_⟩
  · rw [List.append_assoc, hfirst, hsecond, List.append_assoc]
  · rw [namesOf_append, hnames, hnone, List.append_nil]

theorem Skips.inert
    (hrun : ∀ c ∈ run, Token.isInert c = true) :
    Skips run after :=
  ⟨run.map .plain, Token.scan_of_inert hrun, namesOf_plain run⟩

/-- What one token is made of. -/
theorem Skips.token
    {token : Token}
    (hnext : Token.next c (run ++ after) = (token, after))
    (hname : token.name? = none) :
    Skips (c :: run) after := by
  refine ⟨[token], ?_, ?_⟩
  · rw [List.cons_append, Token.scan, hnext]
    rfl
  · simp [namesOf, hname]

theorem Skips.quoted
    (hquote : quote = '\'' ∨ quote = '"') :
    Skips (quote :: (Token.splitQuoted quote inner).1) (Token.splitQuoted quote inner).2 := by
  have hnext : Token.next quote
      ((Token.splitQuoted quote inner).1 ++ (Token.splitQuoted quote inner).2)
        = (.quoted (quote :: (Token.splitQuoted quote inner).1),
          (Token.splitQuoted quote inner).2) := by
    rw [Token.splitQuoted_append]
    exact if_pos hquote
  exact Skips.token hnext rfl

/-- Without backslashes, an escaped constant ends as an ordinary one. -/
theorem splitEscaped_eq
    (hinner : '\\' ∉ (Lexeme.splitEscaped inner).1) :
    Lexeme.splitEscaped inner = Token.splitQuoted '\'' inner := by
  fun_induction Lexeme.splitEscaped inner with
  | case1 => rfl
  | case2 => rfl
  | case3 c d rest hc run after hsplit ih =>
    obtain rfl | ⟨rfl, rfl⟩ := hc
    · simp at hinner
    · rw [hsplit] at ih
      have hquoted := ih fun hmem => hinner (by simp [hmem])
      simp [Token.splitQuoted, ← hquoted]
  | case4 d rest hd =>
    have hne : d ≠ '\'' := by simpa using hd
    simp [Token.splitQuoted, hne]
  | case5 c d rest hd hc run after hsplit ih =>
    rw [hsplit] at ih
    have hquoted := ih fun hmem => hinner (by simp [hmem])
    simp [Token.splitQuoted, hc, ← hquoted]

/-- Without comments inside, a block comment ends at the first closing. -/
theorem splitNested_eq
    (hinner : ¬ ['/', '*'] <:+: (Lexeme.splitNested 0 inner).1) :
    Lexeme.splitNested 0 inner = Token.splitBlock inner := by
  fun_induction Token.splitBlock inner with
  | case1 => rfl
  | case2 => rfl
  | case3 c d rest hends =>
    obtain ⟨rfl, rfl⟩ := hends
    rfl
  | case4 c d rest hends run after hsplit ih =>
    by_cases hopens : c = '/' ∧ d = '*'
    · obtain ⟨rfl, rfl⟩ := hopens
      exact absurd ⟨[], _, rfl⟩ hinner
    · have hstep : Lexeme.splitNested 0 (c :: d :: rest)
          = (c :: (Lexeme.splitNested 0 (d :: rest)).1, (Lexeme.splitNested 0 (d :: rest)).2) := by
        simp only [Lexeme.splitNested, if_neg hopens, if_neg hends]
      rw [hstep] at hinner ⊢
      rw [ih fun hinside => hinner (hinside.trans (List.infix_cons List.infix_rfl)), hsplit]

theorem Skips.block
    (hinner : ¬ ['/', '*'] <:+: (Lexeme.splitNested 0 inner).1) :
    Skips ('/' :: '*' :: (Lexeme.splitNested 0 inner).1) (Lexeme.splitNested 0 inner).2 := by
  rw [splitNested_eq hinner]
  have hnext : Token.next '/'
      ('*' :: (Token.splitBlock inner).1 ++ (Token.splitBlock inner).2)
        = (.comment ('/' :: '*' :: (Token.splitBlock inner).1), (Token.splitBlock inner).2) := by
    rw [List.cons_append, Token.splitBlock_append]
    simp [Token.next]
  exact Skips.token hnext rfl

theorem Skips.line
    (hrun : ∀ d ∈ run, Token.isLinePart d = true)
    (hafter : ∀ d, after.head? = some d → Token.isLinePart d = false) :
    Skips ('-' :: '-' :: run) after := by
  have hdrop : after.takeWhile Token.isLinePart = [] ∧
      after.dropWhile Token.isLinePart = after := by
    cases after with
    | nil => exact ⟨rfl, rfl⟩
    | cons d after => simp [hafter d rfl]
  have hnext : Token.next '-' ('-' :: run ++ after) = (.comment ('-' :: '-' :: run), after) := by
    simp only [List.cons_append, Token.next, List.takeWhile_append_of_pos hrun,
      List.dropWhile_append_of_pos hrun, hdrop, List.append_nil]
    rfl
  exact Skips.token hnext rfl

theorem next_of_lone
    {rest : List Char}
    (hquote : c ≠ '\'' ∧ c ≠ '"')
    (hcomment : Lexeme.startsComment (c :: rest) = false)
    (hname : c = '@' → rest.head?.any Token.isNameStart = false) :
    Token.next c rest = (.plain c, rest) := by
  unfold Token.next
  rw [if_neg (by simp [hquote])]
  split
  · simp [Lexeme.startsComment] at hcomment
  · simp [Lexeme.startsComment] at hcomment
  · rw [if_neg (by simpa using hname rfl)]
  · rfl

/-- Characters of operators, none of which begins a comment or a placeholder. -/
theorem Skips.operator
    (hrun : ∀ u d v, run = u ++ d :: v → Lexeme.isOperatorPart d = true ∧
      Lexeme.startsComment (d :: (v ++ after)) = false ∧
      (d = '@' → (v ++ after).head?.any Token.isNameStart = false)) :
    Skips run after := by
  induction run with
  | nil => exact ⟨[], rfl, rfl⟩
  | cons d run ih =>
    obtain ⟨hpart, hcomment, hname⟩ := hrun [] d run rfl
    have hquote : d ≠ '\'' ∧ d ≠ '"' := by
      constructor <;> rintro rfl <;> revert hpart <;> decide
    have hone : Skips [d] (run ++ after) :=
      Skips.token (next_of_lone hquote hcomment hname) rfl
    have hrest : Skips run after := ih fun u e v heq => hrun (d :: u) e v (by simp [heq])
    exact hone.append hrest

theorem splitOperator_spec
    {cs u v : List Char}
    {d : Char}
    (hsplit : (Lexeme.splitOperator cs).1 = u ++ d :: v) :
    Lexeme.isOperatorPart d = true ∧
      Lexeme.startsComment (d :: (v ++ (Lexeme.splitOperator cs).2)) = false := by
  fun_induction Lexeme.splitOperator cs generalizing u with
  | case1 => simp at hsplit
  | case2 c rest hc run after hrest ih =>
    cases u with
    | nil =>
      obtain ⟨rfl, rfl⟩ := List.cons.inj hsplit
      have happend := Lexeme.splitOperator_append rest
      rw [hrest] at happend
      exact ⟨hc.1, by rw [happend]; exact hc.2⟩
    | cons e u =>
      rw [hrest] at ih
      exact ih (List.cons.inj hsplit).2
  | case3 => simp at hsplit

theorem not_isNameStart_of_isOperatorPart
    (hpart : Lexeme.isOperatorPart c = true) :
    Token.isNameStart c = false := by
  simp only [Lexeme.isOperatorPart, Lexeme.isSign, Lexeme.isSpecial, Bool.or_eq_true,
    decide_eq_true_eq, List.contains_eq_mem, List.mem_cons, List.not_mem_nil, or_false] at hpart
  rcases hpart with ((rfl | rfl) | hpart) | hpart
  · decide
  · decide
  · rcases hpart with rfl | rfl | rfl | rfl | rfl | rfl | rfl | rfl | rfl | rfl <;> decide
  · rcases hpart with rfl | rfl | rfl | rfl | rfl <;> decide

theorem Skips.operator_next
    {rest : List Char}
    (hpart : Lexeme.isOperatorPart c = true)
    (hcomment : Lexeme.startsComment (c :: rest) = false)
    (hsigns : Lexeme.trimSigns c (Lexeme.splitOperator rest).1 = (run, more))
    (hname : (c :: run).getLast? = some '@' →
      (more ++ (Lexeme.splitOperator rest).2).head?.any Token.isNameStart = false) :
    Skips (c :: run) (more ++ (Lexeme.splitOperator rest).2) := by
  have hwhole : Lexeme.splitOperator (c :: rest)
      = (c :: (run ++ more), (Lexeme.splitOperator rest).2) := by
    have happend := Lexeme.trimSigns_append c (Lexeme.splitOperator rest).1
    rw [hsigns] at happend
    rw [Lexeme.splitOperator, if_pos ⟨hpart, hcomment⟩, happend]
  have hspec : ∀ u d v, c :: run = u ++ d :: v → Lexeme.isOperatorPart d = true ∧
      Lexeme.startsComment (d :: (v ++ (more ++ (Lexeme.splitOperator rest).2))) = false := by
    intro u d v heq
    have hsplit : (Lexeme.splitOperator (c :: rest)).1 = u ++ d :: (v ++ more) := by
      rw [hwhole, ← List.cons_append, heq]
      simp
    have hd := splitOperator_spec hsplit
    rwa [hwhole, List.append_assoc] at hd
  refine Skips.operator fun u d v heq => ⟨(hspec u d v heq).1, (hspec u d v heq).2, ?_⟩
  rintro rfl
  cases v with
  | nil => exact hname (by simp [heq])
  | cons e v =>
    have he := hspec (u ++ ['@']) e v (by simp [heq])
    simpa using not_isNameStart_of_isOperatorPart he.1

end Skipping

section Lexing

open Lexeme

variable {continues : Bool} {c : Char} {rest lead inner : List Char} {later : List Lexeme}
  {kind : LexKind}

theorem isInert_of
    (p : Char → Bool)
    (hp : ['\'', '"', '-', '/', '@'].all (!p ·) = true)
    (hc : p c = true) :
    Token.isInert c = true := by
  have hne : ∀ d ∈ ['\'', '"', '-', '/', '@'], c ≠ d := by
    rintro d hd rfl
    simpa [hc] using List.all_eq_true.mp hp c hd
  simpa [Token.isInert, and_assoc] using hne

theorem not_quote_of_opening
    (hopening : opening continues (c :: rest) = none) :
    c ≠ '\'' ∧ c ≠ '"' := by
  constructor <;> rintro rfl <;> simp [opening] at hopening

/-- What comes before an opening quote is inert. -/
theorem opening_spec
    {cs : List Char}
    (hopening : opening continues cs = some (kind, lead, inner)) :
    ∃ first quote, lead = first ++ [quote] ∧ (∀ d ∈ first, Token.isInert d = true) ∧
      (quote = '\'' ∧ (kind = .escaped ∨ kind = .constant) ∨ quote = '"' ∧ kind = .identifier) := by
  unfold opening at hopening
  split at hopening
  · refine ⟨[], '\'', ?_⟩
    split_ifs at hopening <;> cases hopening <;> simp
  · cases hopening
    exact ⟨[], '"', by simp⟩
  · rename_i c inner _ _
    refine ⟨[c], '\'', ?_⟩
    split_ifs at hopening with hc hc
    · cases hopening
      rcases hc with rfl | rfl <;> simp [Token.isInert]
    · cases hopening
      simp only [List.mem_cons, List.not_mem_nil, or_false] at hc
      rcases hc with rfl | rfl | rfl | rfl | rfl | rfl <;> simp [Token.isInert]
  · rename_i c d inner _ _
    refine ⟨[c, '&'], d, ?_⟩
    split_ifs at hopening with hc hd hd <;> cases hopening <;> subst hd <;>
      rcases hc with rfl | rfl <;> simp [Token.isInert]
  · cases hopening

theorem skips_constant
    (hopening : opening continues (c :: rest) = some (kind, lead, inner))
    (hlegible : (⟨kind, lead ++ (closing kind inner).1⟩ : Lexeme).Legible later) :
    Skips (lead ++ (closing kind inner).1) (closing kind inner).2 := by
  obtain ⟨first, quote, rfl, hfirst, hkind⟩ := opening_spec hopening
  have hclosing : closing kind inner = Token.splitQuoted quote inner := by
    rcases hkind with ⟨rfl, rfl | rfl⟩ | ⟨rfl, rfl⟩
    · refine splitEscaped_eq fun hmem => ?_
      exact hlegible (List.mem_append_right _ hmem)
    · rfl
    · rfl
  have hquote : quote = '\'' ∨ quote = '"' := hkind.imp And.left And.left
  rw [hclosing, List.append_assoc]
  exact (Skips.inert hfirst).append (Skips.quoted hquote)

theorem isInert_wordPart
    (hc : isWordPart c = true) :
    Token.isInert c = true :=
  isInert_of isWordPart (by decide) hc

theorem isWordPart_of_isTagPart
    (hc : isTagPart c = true) :
    isWordPart c = true := by
  simp [isWordPart, hc]

theorem isLinePart_of_not_isNewline
    (hc : isNewline c = false) :
    Token.isLinePart c = true := by
  simp_all [isNewline, Token.isLinePart]

theorem startsComment_eq_false
    (hdash : ∀ more, c = '-' → rest = '-' :: more → False)
    (hslash : ∀ more, c = '/' → rest = '*' :: more → False) :
    startsComment (c :: rest) = false := by
  unfold startsComment
  split
  · rename_i more heq
    obtain ⟨hc, hrest⟩ := List.cons.inj heq
    exact (hdash more hc hrest).elim
  · rename_i more heq
    obtain ⟨hc, hrest⟩ := List.cons.inj heq
    exact (hslash more hc hrest).elim
  · rfl

/-- A lexeme is passed over, if no line comment ends before a carriage return and no operator ends
in an at sign before a name. -/
theorem skips_nextCode
    (hquote : c ≠ '\'' ∧ c ≠ '"')
    (hlegible : (nextCode c rest).1.Legible later)
    (hline : (nextCode c rest).1.kind = .line → (nextCode c rest).2.head? ≠ some '\r')
    (hname : (nextCode c rest).1.kind = .operator → (nextCode c rest).1.text.getLast? = some '@' →
      (nextCode c rest).2.head?.any Token.isNameStart = false) :
    Skips (nextCode c rest).1.text (nextCode c rest).2 := by
  revert hlegible hline hname
  unfold nextCode
  split_ifs with hstart hdigit hspace hdollar
  · intro _ _ _
    refine Skips.inert fun d hd => isInert_wordPart ?_
    rcases List.mem_cons.mp hd with rfl | hd
    · exact isWordPart_of_isTagPart (by simp [isTagPart, hstart])
    · exact List.mem_takeWhile_imp hd
  · intro _ _ _
    refine Skips.inert fun d hd => isInert_wordPart (isWordPart_of_isTagPart ?_)
    rcases List.mem_cons.mp hd with rfl | hd
    · simp [isTagPart, hdigit]
    · exact List.mem_takeWhile_imp hd
  · intro _ _ _
    refine Skips.inert fun d hd => ?_
    obtain rfl := List.mem_singleton.mp hd
    exact isInert_of isSpace (by decide) hspace
  · split
    · intro hlegible _ _
      exact Skips.inert hlegible
    · intro _ _ _
      refine Skips.inert fun d hd => ?_
      obtain rfl := List.mem_singleton.mp hd
      exact isInert_wordPart (by simp [isWordPart, hdollar])
  · split
    · intro _ hline _
      refine Skips.line (fun d hd => ?_) fun d hd => ?_
      · exact isLinePart_of_not_isNewline (by simpa using List.mem_takeWhile_imp hd)
      · have hnewline := List.head?_dropWhile_not (!isNewline ·) ‹List Char›
        rw [hd] at hnewline
        have hfeed : d ≠ '\r' := by
          rintro rfl
          exact hline rfl hd
        simpa [isNewline, hfeed, Token.isLinePart] using hnewline
    · intro hlegible _ _
      exact Skips.block hlegible
    · split_ifs with hpart
      · rename_i hdash hslash
        intro _ _ hname
        exact Skips.operator_next hpart (startsComment_eq_false hdash hslash) rfl (hname rfl)
      · intro _ _ _
        refine Skips.inert fun d hd => ?_
        obtain rfl := List.mem_singleton.mp hd
        exact isInert_of (fun d => !isOperatorPart d && d ≠ '\'' && d ≠ '"') (by decide)
          (by simp [hpart, hquote])

/-- A lexeme is passed over, unless it is a line comment before a carriage return or an operator
that ends in an at sign before a name. -/
theorem skips_next
    {lexeme : Lexeme}
    {after : List Char}
    (hnext : next continues c rest = (lexeme, after))
    (hlegible : lexeme.Legible later)
    (hline : lexeme.kind = .line → after.head? ≠ some '\r')
    (hname : lexeme.kind = .operator → lexeme.text.getLast? = some '@' →
      after.head?.any Token.isNameStart = false) :
    Skips lexeme.text after := by
  unfold next at hnext
  split at hnext
  · rename_i kind lead inner hopening
    cases hnext
    exact skips_constant hopening hlegible
  · rename_i hopening
    obtain rfl : (nextCode c rest).1 = lexeme := congrArg Prod.fst hnext
    obtain rfl : (nextCode c rest).2 = after := congrArg Prod.snd hnext
    exact skips_nextCode (not_quote_of_opening hopening) hlegible hline hname

end Lexing

end Sql
end QueryBatch
