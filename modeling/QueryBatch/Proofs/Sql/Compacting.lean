import Mathlib
import QueryBatch.Sql.Compact

/-!
# What a text on one line keeps

A statement is put on one line in three passes: its words are joined by single spaces, then a space
after each `(` is dropped, then a space before each `)`. All three are a walk over the text that
writes every ink character and, between two neighbours, what a rule makes of them and of the blanks
between them (`spread`). Each pass turns one rule into the next, so neither replacement has to be
searched for what the other one left.

Of the last rule everything else follows: where spaces stand, that a text on one line stays as it
is, and that nothing but the places of the blanks counts.
-/

namespace QueryBatch
namespace Sql

open Text

section Defs

/-- The ink of a text, with gaps made by a rule from whether there were blanks and from the two
neighbours. `before` is the ink character before the text, and `spaced` says whether blanks have
followed it. -/
def spread (rule : Bool → Char → Char → List Char) :
    (before : Option Char) → (spaced : Bool) → List Char → List Char
  | _, _, [] => []
  | before, spaced, c :: cs =>
      if isBlank c then spread rule before true cs
      else before.elim [] (rule spaced · c) ++ c :: spread rule (some c) false cs

/-- One space for any blanks. -/
def oneSpace (spaced : Bool) (_ _ : Char) : List Char := if spaced then [' '] else []

/-- One space for any blanks that do not follow an opening parenthesis. -/
def notAfterOpen (spaced : Bool) (a _ : Char) : List Char :=
  if spaced ∧ a ≠ '(' then [' '] else []

/-- One space for any blanks that neither follow an opening parenthesis nor precede a closing
one. -/
def notInsideEdges (spaced : Bool) (a b : Char) : List Char :=
  if spaced ∧ a ≠ '(' ∧ b ≠ ')' then [' '] else []

/-- Two texts with blanks at the same places, whatever and however many these are. -/
inductive SamePlaces : List Char → List Char → Prop
  | nil : SamePlaces [] []
  | ink
      {c : Char}
      {cs ds : List Char}
      (hc : isInk c = true)
      (hrest : SamePlaces cs ds) :
      SamePlaces (c :: cs) (c :: ds)
  | blanks
      {left right cs ds : List Char}
      (hleft : left ≠ [])
      (hright : right ≠ [])
      (hblank : ∀ c ∈ left ++ right, isBlank c = true)
      (hrest : SamePlaces cs ds) :
      SamePlaces (left ++ cs) (right ++ ds)

end Defs

section Characters

theorem isInk_iff
    {c : Char} :
    isInk c = true ↔ isBlank c = false := by
  simp [isInk]

theorem isBlank_space :
    isBlank ' ' = true := by
  decide

theorem ne_space_of_ink
    {c : Char}
    (hc : isBlank c = false) :
    c ≠ ' ' := by
  rintro rfl
  exact absurd hc (by decide)

end Characters

section Spreading

variable {rule : Bool → Char → Char → List Char} {before : Option Char} {spaced : Bool}
variable {c : Char} {cs : List Char}

theorem spread_blank
    (hc : isBlank c = true) :
    spread rule before spaced (c :: cs) = spread rule before true cs := by
  rw [spread, if_pos hc]

theorem spread_first
    (hc : isBlank c = false) :
    spread rule none spaced (c :: cs) = c :: spread rule (some c) false cs := by
  rw [spread, if_neg (by simp [hc])]
  rfl

theorem spread_ink
    {a : Char}
    (hc : isBlank c = false) :
    spread rule (some a) spaced (c :: cs)
      = rule spaced a c ++ c :: spread rule (some c) false cs := by
  rw [spread, if_neg (by simp [hc])]
  rfl

/-- Blanks leave no more behind than that there were some. -/
theorem spread_blanks
    {blanks : List Char}
    (hblanks : ∀ c ∈ blanks, isBlank c = true)
    (rule : Bool → Char → Char → List Char)
    (before : Option Char)
    (spaced : Bool)
    (cs : List Char) :
    spread rule before spaced (blanks ++ cs) = spread rule before (spaced || blanks ≠ []) cs := by
  induction blanks generalizing spaced with
  | nil => simp
  | cons c blanks ih =>
      have hrest := ih (fun d hd => hblanks d (List.mem_cons_of_mem _ hd)) true
      rw [List.cons_append, spread_blank (hblanks c List.mem_cons_self), hrest]
      simp

/-- Before the first ink character no rule applies. -/
theorem spread_none
    (spaced : Bool)
    (cs : List Char) :
    spread rule none spaced cs = spread rule none false cs := by
  cases cs with
  | nil => rfl
  | cons c cs => rfl

end Spreading

section Passes

variable {a c : Char} {cs : List Char}

/-- Single spaces do not depend on their neighbours. -/
theorem spread_oneSpace_congr
    (a b : Char)
    (spaced : Bool)
    (cs : List Char) :
    spread oneSpace (some a) spaced cs = spread oneSpace (some b) spaced cs := by
  induction cs generalizing spaced with
  | nil => rfl
  | cons c cs ih =>
      cases hc : isBlank c with
      | true => rw [spread_blank hc, spread_blank hc, ih]
      | false =>
          rw [spread_ink hc, spread_ink hc]
          rfl

/-- The rest of a word, up to the blank that ends it. -/
theorem spread_oneSpace_word
    (a : Char)
    (cs : List Char) :
    spread oneSpace (some a) false cs
      = cs.takeWhile isInk ++ spread oneSpace (some a) true (cs.dropWhile isInk) := by
  induction cs generalizing a with
  | nil => rfl
  | cons c cs ih =>
      cases hc : isBlank c with
      | true =>
          have hink : ¬ isInk c = true := by simp [isInk, hc]
          rw [List.takeWhile_cons_of_neg hink, List.dropWhile_cons_of_neg hink, spread_blank hc,
            spread_blank hc, List.nil_append]
      | false =>
          have hink : isInk c = true := isInk_iff.2 hc
          rw [List.takeWhile_cons_of_pos hink, List.dropWhile_cons_of_pos hink, spread_ink hc, ih c,
            spread_oneSpace_congr c a]
          rfl

/-- After a blank, each word comes with a space before it. -/
theorem spread_oneSpace_spaced
    (a : Char)
    (cs : List Char) :
    spread oneSpace (some a) true cs = (words cs).flatMap (' ' :: ·) := by
  fun_induction words cs generalizing a with
  | case1 cs hstart =>
      have hblanks : ∀ c ∈ cs, isBlank c = true := by
        simpa [List.dropWhile_eq_nil_iff] using hstart
      rw [← List.append_nil cs, spread_blanks hblanks]
      rfl
  | case2 cs c rest hstart ih =>
      have hc : isBlank c = false := by
        have hhead := List.head?_dropWhile_not isBlank cs
        rw [hstart] at hhead
        exact hhead
      have hcs : cs.takeWhile isBlank ++ c :: rest = cs := by
        rw [← hstart, List.takeWhile_append_dropWhile]
      rw [← hcs, spread_blanks fun d hd => List.mem_takeWhile_imp hd, Bool.true_or, spread_ink hc,
        spread_oneSpace_word, ih c, List.flatMap_cons]
      rfl

/-- Joined words are the words with a space before each, less the first space. -/
theorem unwords_eq
    (ws : List (List Char)) :
    unwords ws = (ws.flatMap (' ' :: ·)).tail := by
  induction ws with
  | nil => rfl
  | cons word ws ih =>
      cases ws with
      | nil => simp [unwords]
      | cons next ws =>
          have hrest : unwords (next :: ws) = next ++ ws.flatMap (' ' :: ·) := ih
          rw [unwords, hrest]
          · simp
          · simp

/-- The words of a text with single spaces between them. -/
theorem unwords_words
    (cs : List Char) :
    unwords (words cs) = spread oneSpace none false cs := by
  have hfirst (cs : List Char) :
      (spread oneSpace (some '(') true cs).tail = spread oneSpace none false cs := by
    induction cs with
    | nil => rfl
    | cons c cs ih =>
        cases hc : isBlank c with
        | true => rw [spread_blank hc, spread_blank hc, ih, spread_none true]
        | false =>
            rw [spread_ink hc, spread_first hc]
            rfl
  rw [unwords_eq, ← spread_oneSpace_spaced '(', hfirst]

theorem tightenOpen_cons
    (hc : c ≠ '(') :
    tightenOpen (c :: cs) = c :: tightenOpen cs := by
  cases cs with
  | nil => rfl
  | cons d cs => rw [tightenOpen, if_neg (by simp [hc])]

theorem tightenClose_cons
    (hc : c ≠ ' ') :
    tightenClose (c :: cs) = c :: tightenClose cs := by
  cases cs with
  | nil => rfl
  | cons d cs => rw [tightenClose, if_neg (by simp [hc])]

/-- The second pass drops the spaces that the rule drops. A dropped space stood before ink, so it
does not bring the `(` before it up to another space. -/
theorem tightenOpen_spread_ink
    (ha : isBlank a = false)
    (spaced : Bool)
    (cs : List Char) :
    tightenOpen (a :: spread oneSpace (some a) spaced cs)
      = a :: spread notAfterOpen (some a) spaced cs := by
  induction cs generalizing a spaced with
  | nil => rfl
  | cons c cs ih =>
      cases hc : isBlank c with
      | true => rw [spread_blank hc, spread_blank hc, ih ha]
      | false =>
          have hrest := ih hc false
          rw [spread_ink hc, spread_ink hc]
          cases spaced with
          | false =>
              have hspace : c ≠ ' ' := ne_space_of_ink hc
              simp [oneSpace, notAfterOpen, tightenOpen, hspace, hrest]
          | true =>
              have hspace : (' ' : Char) ≠ '(' := by decide
              by_cases hopen : a = '('
              · simp [oneSpace, notAfterOpen, tightenOpen, hopen, hrest]
              · simp [oneSpace, notAfterOpen, tightenOpen_cons hopen, tightenOpen_cons hspace,
                  hopen, hrest]

theorem tightenOpen_spread
    (cs : List Char) :
    tightenOpen (spread oneSpace none false cs) = spread notAfterOpen none false cs := by
  induction cs with
  | nil => rfl
  | cons c cs ih =>
      cases hc : isBlank c with
      | true => rw [spread_blank hc, spread_blank hc, spread_none true, spread_none true, ih]
      | false => rw [spread_first hc, spread_first hc, tightenOpen_spread_ink hc]

/-- The third pass, which looks no further back than a space. -/
theorem tightenClose_spread
    (before : Option Char)
    (spaced : Bool)
    (cs : List Char) :
    tightenClose (spread notAfterOpen before spaced cs)
      = spread notInsideEdges before spaced cs := by
  induction cs generalizing before spaced with
  | nil => rfl
  | cons c cs ih =>
      cases hc : isBlank c with
      | true => rw [spread_blank hc, spread_blank hc, ih]
      | false =>
          have hrest := ih (some c) false
          have hspace : c ≠ ' ' := ne_space_of_ink hc
          cases before with
          | none => rw [spread_first hc, spread_first hc, tightenClose_cons hspace, hrest]
          | some a =>
              rw [spread_ink hc, spread_ink hc]
              by_cases hkept : spaced = true ∧ a ≠ '('
              · by_cases hclose : c = ')'
                · subst hclose
                  simp [notAfterOpen, notInsideEdges, tightenClose, hkept, hrest]
                · simp [notAfterOpen, notInsideEdges, tightenClose, hkept, hclose,
                    tightenClose_cons hspace, hrest]
              · have hdropped : ¬ (spaced = true ∧ a ≠ '(' ∧ c ≠ ')') :=
                  fun h => hkept ⟨h.1, h.2.1⟩
                rw [notAfterOpen, notInsideEdges, if_neg hkept, if_neg hdropped, List.nil_append,
                  List.nil_append, tightenClose_cons hspace, hrest]

/-- All passes are one walk. -/
theorem compactChars_eq_spread
    (cs : List Char) :
    compactChars cs = spread notInsideEdges none false cs := by
  rw [compactChars, unwords_words, tightenOpen_spread, tightenClose_spread]

end Passes

section Places

variable {a b : Char} {cs ds : List Char}

theorem filter_notInsideEdges
    (spaced : Bool)
    (a b : Char) :
    (notInsideEdges spaced a b).filter isInk = [] := by
  unfold notInsideEdges
  split <;> simp [isInk, isBlank_space]

/-- The ink stays, in its order. -/
theorem filter_spread
    (before : Option Char)
    (spaced : Bool)
    (cs : List Char) :
    (spread notInsideEdges before spaced cs).filter isInk = cs.filter isInk := by
  induction cs generalizing before spaced with
  | nil => rfl
  | cons c cs ih =>
      cases hc : isBlank c with
      | true => rw [spread_blank hc, ih, List.filter_cons_of_neg (by simp [isInk, hc])]
      | false =>
          have hink : isInk c = true := isInk_iff.2 hc
          cases before with
          | none => rw [spread_first hc, List.filter_cons_of_pos hink, ih,
              List.filter_cons_of_pos hink]
          | some a => rw [spread_ink hc, List.filter_append, filter_notInsideEdges, List.nil_append,
              List.filter_cons_of_pos hink, ih, List.filter_cons_of_pos hink]

/-- The walk passes an ink character with the same ink before it. -/
theorem spread_append_ink
    (ha : isBlank a = false)
    (before : Option Char)
    (spaced : Bool)
    (cs ds : List Char) :
    ∃ front, spread notInsideEdges before spaced (cs ++ a :: ds)
        = front ++ a :: spread notInsideEdges (some a) false ds ∧
      front.filter isInk = cs.filter isInk := by
  induction cs generalizing before spaced with
  | nil =>
      cases before with
      | none => exact ⟨[], spread_first ha, rfl⟩
      | some c => exact ⟨_, spread_ink ha, filter_notInsideEdges spaced c a⟩
  | cons c cs ih =>
      cases hc : isBlank c with
      | true =>
          obtain ⟨front, hfront, hfilter⟩ := ih before true
          refine ⟨front, ?_, ?_⟩
          · rw [List.cons_append, spread_blank hc, hfront]
          · rw [hfilter, List.filter_cons_of_neg (by simp [isInk, hc])]
      | false =>
          have hink : isInk c = true := isInk_iff.2 hc
          obtain ⟨front, hfront, hfilter⟩ := ih (some c) false
          refine ⟨before.elim [] (notInsideEdges spaced · c) ++ c :: front, ?_, ?_⟩
          · rw [List.cons_append, spread, if_neg (by simp [hc]), hfront]
            simp
          · have hgap : (before.elim [] (notInsideEdges spaced · c)).filter isInk = [] := by
              cases before with
              | none => rfl
              | some b => exact filter_notInsideEdges spaced b c
            rw [List.filter_append, hgap, List.nil_append, List.filter_cons_of_pos hink, hfilter,
              List.filter_cons_of_pos hink]

/-- Between two neighbours stands what the rule makes of the blanks between them. -/
theorem spread_neighbours
    {before blanks after : List Char}
    (ha : isBlank a = false)
    (hb : isBlank b = false)
    (hblanks : ∀ c ∈ blanks, isBlank c = true) :
    ∃ front back, spread notInsideEdges none false (before ++ a :: (blanks ++ b :: after))
        = front ++ a :: (notInsideEdges (blanks ≠ []) a b ++ b :: back) ∧
      front.filter isInk = before.filter isInk ∧ back.filter isInk = after.filter isInk := by
  obtain ⟨front, hfront, hfilter⟩ := spread_append_ink ha none false before (blanks ++ b :: after)
  refine ⟨front, spread notInsideEdges (some b) false after, ?_, hfilter, filter_spread _ _ _⟩
  rw [hfront, spread_blanks hblanks, spread_ink hb, Bool.false_or]

/-- What may stand next to each other in a text on one line: no two blanks, and no blank inside the
edge of parentheses. -/
def Beside (x y : Char) : Prop :=
  (isBlank x = true → isBlank y = false ∧ x = ' ' ∧ y ≠ ')') ∧
    (isBlank y = true → y = ' ' ∧ x ≠ '(')

theorem beside_of_ink
    (ha : isBlank a = false)
    (hb : isBlank b = false) :
    Beside a b := by
  simp [Beside, ha, hb]

/-- Behind an ink character the text goes on as it may. -/
theorem isChain_spread
    (ha : isBlank a = false)
    (spaced : Bool)
    (cs : List Char) :
    List.IsChain Beside (a :: spread notInsideEdges (some a) spaced cs) := by
  induction cs generalizing a spaced with
  | nil => exact List.isChain_singleton a
  | cons c cs ih =>
      cases hc : isBlank c with
      | true =>
          rw [spread_blank hc]
          exact ih ha true
      | false =>
          have hrest := ih hc false
          rw [spread_ink hc, notInsideEdges]
          split
          · next hkept =>
              have hbefore : Beside a ' ' := by simp [Beside, ha, hkept.2.1]
              have hbehind : Beside ' ' c := by simp [Beside, isBlank_space, hc, hkept.2.2]
              exact List.isChain_cons_cons.2 ⟨hbefore, List.isChain_cons_cons.2 ⟨hbehind, hrest⟩⟩
          · exact List.isChain_cons_cons.2 ⟨beside_of_ink ha hc, hrest⟩

/-- A text that starts with ink, or is empty, as the walk leaves it. -/
theorem spread_none_cases
    (cs : List Char) :
    spread notInsideEdges none false cs = [] ∨
      ∃ c ds, isBlank c = false ∧
        spread notInsideEdges none false cs = c :: spread notInsideEdges (some c) false ds := by
  induction cs with
  | nil => exact .inl rfl
  | cons c cs ih =>
      cases hc : isBlank c with
      | true =>
          rw [spread_blank hc, spread_none true]
          exact ih
      | false => exact .inr ⟨c, cs, hc, spread_first hc⟩

/-- A text on one line ends in ink. -/
theorem getLast?_spread
    (before : Option Char)
    (spaced : Bool)
    (cs : List Char) :
    ∀ c ∈ (spread notInsideEdges before spaced cs).getLast?, isBlank c = false := by
  induction cs generalizing before spaced with
  | nil => simp [spread]
  | cons c cs ih =>
      cases hc : isBlank c with
      | true =>
          rw [spread_blank hc]
          exact ih before true
      | false =>
          rw [spread, if_neg (by simp [hc]), List.getLast?_append_cons]
          cases hrest : spread notInsideEdges (some c) false cs with
          | nil => simpa using hc
          | cons d ds =>
              rw [List.getLast?_cons_cons, ← hrest]
              exact ih (some c) false

/-- A second walk changes nothing. -/
theorem spread_spread
    (a : Char)
    (spaced : Bool)
    (cs : List Char) :
    spread notInsideEdges (some a) false (spread notInsideEdges (some a) spaced cs)
      = spread notInsideEdges (some a) spaced cs := by
  induction cs generalizing a spaced with
  | nil => rfl
  | cons c cs ih =>
      cases hc : isBlank c with
      | true => rw [spread_blank hc, ih]
      | false =>
          rw [spread_ink hc]
          by_cases hkept : spaced = true ∧ a ≠ '(' ∧ c ≠ ')'
          · have hgap : notInsideEdges spaced a c = [' '] := if_pos hkept
            have hagain : notInsideEdges true a c = [' '] := if_pos ⟨rfl, hkept.2⟩
            rw [hgap, List.cons_append, List.nil_append, spread_blank isBlank_space, spread_ink hc,
              hagain, ih]
            rfl
          · have hgap : notInsideEdges spaced a c = [] := if_neg hkept
            have hagain : notInsideEdges false a c = [] := rfl
            rw [hgap, List.nil_append, spread_ink hc, hagain, ih]
            rfl

/-- Only the places of blanks count. -/
theorem SamePlaces.spread_eq
    (h : SamePlaces cs ds)
    (before : Option Char)
    (spaced : Bool) :
    spread notInsideEdges before spaced cs = spread notInsideEdges before spaced ds := by
  induction h generalizing before spaced with
  | nil => rfl
  | @ink c cs ds hc hrest ih =>
      rw [spread, spread, ih (some c)]
      simp [isInk_iff.1 hc]
  | @blanks left right cs ds hleft hright hblank hrest ih =>
      have hleftBlank : ∀ c ∈ left, isBlank c = true :=
        fun c hc => hblank c (List.mem_append_left right hc)
      have hrightBlank : ∀ c ∈ right, isBlank c = true :=
        fun c hc => hblank c (List.mem_append_right left hc)
      rw [spread_blanks hleftBlank, spread_blanks hrightBlank, ih]
      simp [hleft, hright]

end Places

section Main

theorem toList_compact
    (text : String) :
    (compact text).toList = spread notInsideEdges none false text.toList := by
  rw [compact, String.toList_ofList, compactChars_eq_spread]

/-- A text on one line starts with ink, and goes on as it may. -/
theorem isChain_compact
    (text : String) :
    (∀ c ∈ (compact text).toList.head?, isBlank c = false) ∧
      (compact text).toList.IsChain Beside := by
  rw [toList_compact]
  rcases spread_none_cases text.toList with hnil | ⟨c, ds, hc, hcons⟩
  · rw [hnil]
    exact ⟨by simp, List.isChain_nil⟩
  · rw [hcons]
    exact ⟨by simpa using hc, isChain_spread hc false ds⟩

theorem compact_compact
    (text : String) :
    compact (compact text) = compact text := by
  refine String.toList_injective ?_
  rw [toList_compact, toList_compact]
  rcases spread_none_cases text.toList with hnil | ⟨c, ds, hc, hcons⟩
  · rw [hnil]
    rfl
  · rw [hcons, spread_first hc, spread_spread]

/-- No two characters stand next to each other that may not. -/
theorem not_infix_of_isChain
    {x y : Char}
    {cs : List Char}
    (hchain : cs.IsChain Beside)
    (hxy : ¬ Beside x y) :
    ¬ [x, y] <:+: cs := by
  intro hinfix
  have hpair := hchain.infix hinfix
  exact hxy (by simpa using hpair)

/-- A blank of a text that starts with ink and goes on as it may is a space. -/
theorem eq_space_of_isChain
    {c : Char}
    {cs : List Char}
    (hhead : ∀ c ∈ cs.head?, isBlank c = false)
    (hchain : cs.IsChain Beside)
    (hmem : c ∈ cs)
    (hc : isBlank c = true) :
    c = ' ' := by
  obtain ⟨front, back, rfl⟩ := List.append_of_mem hmem
  rcases List.eq_nil_or_concat front with rfl | ⟨front, b, rfl⟩
  · have hink : isBlank c = false := hhead c rfl
    rw [hink] at hc
    cases hc
  · have hinfix : [b, c] <:+: front.concat b ++ c :: back := ⟨front, back, by simp⟩
    have hbeside : Beside b c := by simpa using hchain.infix hinfix
    exact (hbeside.2 hc).1

/-- What becomes of a text on one line.

It keeps its ink in order and changes nothing but blanks: those before the first and after the last
ink character go, and between two neighbours one space is left of any blanks that neither follow an
opening parenthesis nor precede a closing one. So no blanks are left but single spaces, none of them
inside the edges of parentheses; a text on one line stays as it is; and texts with blanks at the
same places become the same. -/
theorem compact_sets_gaps
    (text : String) :
    (compact text).toList.filter isInk = text.toList.filter isInk ∧
    (∀ c ∈ (compact text).toList.head?, isBlank c = false) ∧
    (∀ c ∈ (compact text).toList.getLast?, isBlank c = false) ∧
    (∀ before a blanks b after, text.toList = before ++ a :: (blanks ++ b :: after) →
      isBlank a = false → isBlank b = false → (∀ c ∈ blanks, isBlank c = true) →
      ∃ front back,
        (compact text).toList
            = front ++ a :: ((if blanks ≠ [] ∧ a ≠ '(' ∧ b ≠ ')' then [' '] else []) ++ b :: back) ∧
        front.filter isInk = before.filter isInk ∧ back.filter isInk = after.filter isInk) ∧
    (∀ c ∈ (compact text).toList, isBlank c = true → c = ' ') ∧
    ¬ [' ', ' '] <:+: (compact text).toList ∧
    ¬ ['(', ' '] <:+: (compact text).toList ∧
    ¬ [' ', ')'] <:+: (compact text).toList ∧
    compact (compact text) = compact text ∧
    ∀ other : String, SamePlaces text.toList other.toList → compact other = compact text := by
  obtain ⟨hhead, hchain⟩ := isChain_compact text
  have hlast : ∀ c ∈ (compact text).toList.getLast?, isBlank c = false := by
    rw [toList_compact]
    exact getLast?_spread none false text.toList
  refine ⟨?_, hhead, hlast, ?_, fun c hmem hc => eq_space_of_isChain hhead hchain hmem hc,
    not_infix_of_isChain hchain (by simp [Beside, isBlank_space]),
    not_infix_of_isChain hchain (by simp [Beside, isBlank_space]),
    not_infix_of_isChain hchain (by simp [Beside, isBlank_space]), compact_compact text, ?_⟩
  · rw [toList_compact]
    exact filter_spread none false text.toList
  · intro before a blanks b after htext ha hb hblanks
    rw [toList_compact, htext]
    simpa [notInsideEdges] using spread_neighbours ha hb hblanks
  · intro other hplaces
    refine String.toList_injective ?_
    rw [toList_compact, toList_compact, hplaces.spread_eq]

/-- Blanks of other kinds, inside and outside of parentheses. -/
theorem compact_sets_gaps_in_parentheses :
    let text := "\t( (a )\u3000\n b"
    (∃ front back,
      (compact text).toList = front ++ ')' :: ([' '] ++ 'b' :: back) ∧
      front.filter isInk = ['(', '(', 'a'] ∧ back.filter isInk = []) ∧
    compact " (\n(a\u00A0) b" = compact text := by
  intro text
  obtain ⟨-, -, -, hneighbours, -, -, -, -, -, hplaces⟩ := compact_sets_gaps text
  refine ⟨?_, hplaces _ ?_⟩
  · exact hneighbours ['\t', '(', ' ', '(', 'a', ' '] ')' ['\u3000', '\n', ' '] 'b' [] (by decide)
      (by decide) (by decide) (List.all_eq_true.1 (by decide))
  · have htext : text.toList
        = ['\t'] ++ '(' :: ([' '] ++ '(' :: 'a' :: ([' '] ++ ')' ::
            (['\u3000', '\n', ' '] ++ ['b']))) := by
      decide
    have hother : " (\n(a\u00A0) b".toList
        = [' '] ++ '(' :: (['\n'] ++ '(' :: 'a' :: (['\u00A0'] ++ ')' :: ([' '] ++ ['b']))) := by
      decide
    rw [htext, hother]
    refine .blanks (by simp) (by simp) (List.all_eq_true.1 (by decide)) (.ink (by decide) ?_)
    refine .blanks (by simp) (by simp) (List.all_eq_true.1 (by decide)) (.ink (by decide) ?_)
    refine .ink (by decide) ?_
    refine .blanks (by simp) (by simp) (List.all_eq_true.1 (by decide)) (.ink (by decide) ?_)
    exact .blanks (by simp) (by simp) (List.all_eq_true.1 (by decide)) (.ink (by decide) .nil)

end Main

end Sql
end QueryBatch
