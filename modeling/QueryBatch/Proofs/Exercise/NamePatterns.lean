import QueryBatch.Proofs.Exercise.Search

/-!
# Names that a search finds

A search compares the names of exercises with a pattern, which is the text of its filter between two
percent signs. `Letters.like?` is what the database makes of a pattern: a percent sign stands for
any sequence of characters, an underscore for any one character, a backslash takes the meaning from
the character behind it, and letters compare whatever their case.

A text without these three characters is found in the names that hold it, and in no others
(`like?_of_plain`). Every other text is found in a name that does not hold it: its `decoy`, which
has nothing for a percent sign, another character for an underscore, and no backslash for a pair.
-/

namespace QueryBatch
namespace Exercise

open Query (search)

section Defs

/-- Whether a character means something else than itself in a pattern. -/
def isSpecial (c : Char) : Bool := c = '%' || c = '_' || c = '\\'

/-- How characters compare when the case of letters does not count. Special characters are no
letters. -/
structure Letters where
  fold : Char → Char
  eq_of_special : ∀ c d, isSpecial c = true → fold c = fold d → c = d

/-- A part of a pattern. -/
inductive Piece
  | anything
  | anyChar
  | char (c : Char)

/-- The pieces of a pattern. One that ends with the first half of a pair is refused. -/
def pieces? : List Char → Option (List Piece)
  | [] => some []
  | '%' :: cs => (pieces? cs).map (.anything :: ·)
  | '_' :: cs => (pieces? cs).map (.anyChar :: ·)
  | ['\\'] => none
  | '\\' :: c :: cs => (pieces? cs).map (.char c :: ·)
  | c :: cs => (pieces? cs).map (.char c :: ·)

/-- Part of a name that a text is found in as a pattern. -/
def decoy : List Char → List Char
  | [] => []
  | '%' :: cs => decoy cs
  | '_' :: cs => '-' :: decoy cs
  -- the backslash takes the meaning from the percent sign behind the text
  | ['\\'] => ['%']
  | '\\' :: c :: cs => c :: decoy cs
  | c :: cs => c :: decoy cs

namespace Letters

/-- Letters of ASCII. -/
def ascii : Letters where
  fold := Char.toLower
  eq_of_special c d hc hfold := by
    simp only [isSpecial, Bool.or_eq_true, decide_eq_true_eq] at hc
    have hkept : c.toLower = c := by
      rcases hc with (rfl | rfl) | rfl <;> decide
    rw [hkept, Char.toLower] at hfold
    split at hfold
    · next hupper =>
      -- the small letters lie behind all special characters
      have hleast : 65 ≤ d.val.toNat := hupper.1
      have hgreatest : d.val.toNat ≤ 90 := hupper.2
      have hlower : c.val.toNat = (d.val.toNat + 32) % 2 ^ 32 := by
        rw [hfold]
        exact UInt32.toNat_add ..
      have hbehind : 97 ≤ c.val.toNat := by omega
      rcases hc with (rfl | rfl) | rfl <;> exact absurd hbehind (by decide)
    · exact hfold

/-- Whether characters are what pieces stand for. -/
def spans (letters : Letters) : List Piece → List Char → Bool
  | [], cs => cs.isEmpty
  | .anything :: ps, cs => cs.tails.any (letters.spans ps)
  | .anyChar :: ps, _ :: cs => letters.spans ps cs
  | .char p :: ps, c :: cs => letters.fold p = letters.fold c && letters.spans ps cs
  | _ :: _, [] => false

/-- Whether a name is like a pattern, unless the pattern is refused. -/
def like? (letters : Letters) (pattern name : String) : Option Bool :=
  (pieces? pattern.toList).map fun ps => letters.spans ps name.toList

/-- A name holds a text, whatever the case of its letters. -/
def Holds (letters : Letters) (name part : String) : Prop :=
  part.toList.map letters.fold <:+: name.toList.map letters.fold

end Letters
end Defs

section Spans

variable {letters : Letters} {ps : List Piece} {part name : List Char}

theorem spans_anything :
    letters.spans (.anything :: ps) name = true
      ↔ ∃ before behind, name = before ++ behind ∧ letters.spans ps behind = true := by
  rw [Letters.spans, List.any_eq_true]
  constructor
  · rintro ⟨behind, hmem, hspans⟩
    obtain ⟨before, hname⟩ := (List.mem_tails _ _).1 hmem
    exact ⟨before, behind, hname.symm, hspans⟩
  · rintro ⟨before, behind, rfl, hspans⟩
    exact ⟨behind, (List.mem_tails _ _).2 (List.suffix_append before behind), hspans⟩

theorem spans_anything_only
    (name : List Char) :
    letters.spans [.anything] name = true :=
  spans_anything.2 ⟨name, [], by simp, rfl⟩

theorem spans_char_cons
    {p c : Char} :
    letters.spans (.char p :: ps) (c :: name) = true
      ↔ letters.fold p = letters.fold c ∧ letters.spans ps name = true := by
  rw [Letters.spans, Bool.and_eq_true, decide_eq_true_iff]

/-- Characters that stand for themselves are followed by what the other pieces stand for. -/
theorem spans_chars_append :
    letters.spans (part.map .char ++ ps) name = true
      ↔ ∃ held rest, name = held ++ rest ∧ held.map letters.fold = part.map letters.fold ∧
        letters.spans ps rest = true := by
  induction part generalizing name with
  | nil =>
      constructor
      · intro hspans
        exact ⟨[], name, rfl, rfl, hspans⟩
      · rintro ⟨held, rest, rfl, hheld, hspans⟩
        rw [List.map_nil, List.map_eq_nil_iff] at hheld
        rw [hheld]
        exact hspans
  | cons p part ih =>
      cases name with
      | nil =>
          constructor
          · intro hspans
            simp [Letters.spans] at hspans
          · rintro ⟨held, rest, hname, hheld, -⟩
            obtain ⟨rfl, -⟩ := List.append_eq_nil_iff.1 hname.symm
            simp at hheld
      | cons c name =>
          rw [List.map_cons, List.cons_append, spans_char_cons, ih]
          constructor
          · rintro ⟨hfold, held, rest, rfl, hheld, hspans⟩
            exact ⟨c :: held, rest, rfl, by rw [List.map_cons, List.map_cons, hfold, hheld], hspans⟩
          · rintro ⟨held, rest, hname, hheld, hspans⟩
            cases held with
            | nil => simp at hheld
            | cons first held =>
                obtain ⟨rfl, rfl⟩ := List.cons.inj hname
                obtain ⟨hfold, hheld⟩ := List.cons.inj hheld
                exact ⟨hfold.symm, held, rest, rfl, hheld, hspans⟩

/-- What a text between two wildcards stands for. -/
theorem spans_within :
    letters.spans (.anything :: (part.map .char ++ [.anything])) name = true
      ↔ part.map letters.fold <:+: name.map letters.fold := by
  rw [spans_anything]
  constructor
  · rintro ⟨before, behind, rfl, hspans⟩
    obtain ⟨held, rest, rfl, hheld, -⟩ := spans_chars_append.1 hspans
    refine ⟨before.map letters.fold, rest.map letters.fold, ?_⟩
    rw [← hheld, List.map_append, List.map_append, List.append_assoc]
  · rintro ⟨before, behind, hname⟩
    rw [List.append_assoc] at hname
    obtain ⟨first, others, rfl, -, hothers⟩ := List.map_eq_append_iff.1 hname.symm
    obtain ⟨held, rest, rfl, hheld, -⟩ := List.map_eq_append_iff.1 hothers
    exact ⟨first, held ++ rest, rfl,
      spans_chars_append.2 ⟨held, rest, rfl, hheld, spans_anything_only rest⟩⟩

end Spans

section Pieces

variable {part : List Char}

theorem pieces?_cons_of_plain
    {c : Char}
    (hc : isSpecial c = false)
    (cs : List Char) :
    pieces? (c :: cs) = (pieces? cs).map (.char c :: ·) := by
  simp only [isSpecial, Bool.or_eq_false_iff, decide_eq_false_iff_not] at hc
  obtain ⟨⟨hpercent, hunderscore⟩, hbackslash⟩ := hc
  rw [pieces?.eq_def]
  split <;> simp_all

/-- A text without special characters is its own pattern. -/
theorem pieces?_append_of_plain
    (hplain : ∀ c ∈ part, isSpecial c = false)
    (cs : List Char) :
    pieces? (part ++ cs) = (pieces? cs).map (part.map .char ++ ·) := by
  induction part with
  | nil => simp
  | cons c part ih =>
      rw [List.cons_append, pieces?_cons_of_plain (hplain c List.mem_cons_self),
        ih fun d hd => hplain d (List.mem_cons_of_mem c hd), Option.map_map]
      rfl

/-- What a decoy keeps stands for itself. -/
theorem plain_of_ne
    {c : Char}
    (hpercent : c ≠ '%')
    (hunderscore : c ≠ '_')
    (hend : c = '\\' → part ≠ [])
    (hpair : ∀ d cs, c = '\\' → part ≠ d :: cs) :
    isSpecial c = false := by
  have hbackslash : c ≠ '\\' := by
    rintro rfl
    cases part with
    | nil => exact hend rfl rfl
    | cons d cs => exact hpair d cs rfl rfl
  simp [isSpecial, hpercent, hunderscore, hbackslash]

/-- The pattern of a text is not refused, and its decoy is like it. -/
theorem spans_decoy
    (letters : Letters)
    (part : List Char) :
    ∃ ps, pieces? (part ++ ['%']) = some ps ∧ letters.spans ps (decoy part) = true := by
  fun_induction decoy part with
  | case1 => exact ⟨[.anything], rfl, rfl⟩
  | case2 cs ih =>
      obtain ⟨ps, hps, hspans⟩ := ih
      refine ⟨.anything :: ps, ?_, spans_anything.2 ⟨[], _, rfl, hspans⟩⟩
      rw [List.cons_append, pieces?, hps, Option.map_some]
  | case3 cs ih =>
      obtain ⟨ps, hps, hspans⟩ := ih
      refine ⟨.anyChar :: ps, ?_, hspans⟩
      rw [List.cons_append, pieces?, hps, Option.map_some]
  | case4 => exact ⟨[.char '%'], rfl, by simp [Letters.spans]⟩
  | case5 c cs ih =>
      obtain ⟨ps, hps, hspans⟩ := ih
      refine ⟨.char c :: ps, ?_, spans_char_cons.2 ⟨rfl, hspans⟩⟩
      rw [List.cons_append, List.cons_append, pieces?, hps, Option.map_some]
  | case6 c cs hpercent hunderscore hend hpair ih =>
      obtain ⟨ps, hps, hspans⟩ := ih
      have hc : isSpecial c = false := plain_of_ne hpercent hunderscore hend hpair
      refine ⟨.char c :: ps, ?_, spans_char_cons.2 ⟨rfl, hspans⟩⟩
      rw [List.cons_append, pieces?_cons_of_plain hc, hps, Option.map_some]

/-- The decoy of a text is no longer than the text. -/
theorem length_decoy_le
    (part : List Char) :
    (decoy part).length ≤ part.length := by
  fun_induction decoy part <;> simp <;> omega

/-- The decoy of a text with a special character is another text. -/
theorem map_decoy_ne
    (letters : Letters)
    (hspecial : ∃ c ∈ part, isSpecial c = true) :
    (decoy part).map letters.fold ≠ part.map letters.fold := by
  intro hsame
  have hlength := congrArg List.length hsame
  fun_induction decoy part with
  | case1 => simp at hspecial
  | case2 cs ih =>
      have hle := length_decoy_le cs
      simp only [List.length_map, List.length_cons] at hlength
      omega
  | case3 cs ih =>
      obtain ⟨hfold, -⟩ := List.cons.inj hsame
      exact absurd (letters.eq_of_special '_' '-' rfl hfold.symm) (by decide)
  | case4 =>
      obtain ⟨hfold, -⟩ := List.cons.inj hsame
      exact absurd (letters.eq_of_special '%' '\\' rfl hfold) (by decide)
  | case5 c cs ih =>
      have hle := length_decoy_le cs
      simp only [List.length_map, List.length_cons] at hlength
      omega
  | case6 c cs hpercent hunderscore hend hpair ih =>
      have hc : isSpecial c = false := plain_of_ne hpercent hunderscore hend hpair
      have hrest : ∃ d ∈ cs, isSpecial d = true := by simpa [hc] using hspecial
      obtain ⟨-, hcs⟩ := List.cons.inj hsame
      exact ih hrest hcs (congrArg List.length hcs)

end Pieces

section Search

variable {part : String}

/-- The pattern of a text between two percent signs. -/
theorem toList_pattern
    (part : String) :
    ("%" ++ part ++ "%").toList = '%' :: (part.toList ++ ['%']) := by
  simp

/-- A text without special characters is found exactly in the names that hold it. -/
theorem like?_of_plain
    (letters : Letters)
    (hplain : ∀ c ∈ part.toList, isSpecial c = false)
    (name : String) :
    letters.like? ("%" ++ part ++ "%") name = some true ↔ letters.Holds name part := by
  have hpieces : pieces? ("%" ++ part ++ "%").toList
      = some (.anything :: (part.toList.map .char ++ [.anything])) := by
    rw [toList_pattern, pieces?, pieces?_append_of_plain hplain]
    rfl
  rw [Letters.like?, hpieces, Option.map_some, Option.some_inj]
  exact spans_within

/-- A text with a special character is found in its decoy. -/
theorem like?_decoy
    (letters : Letters)
    (part : String) :
    letters.like? ("%" ++ part ++ "%") (String.ofList (decoy part.toList)) = some true := by
  obtain ⟨ps, hps, hspans⟩ := spans_decoy letters part.toList
  rw [Letters.like?, toList_pattern, pieces?, hps, Option.map_some, Option.map_some,
    String.toList_ofList, Option.some_inj]
  exact spans_anything.2 ⟨[], _, rfl, hspans⟩

/-- The decoy of a text with a special character does not hold the text. -/
theorem not_holds_decoy
    (letters : Letters)
    (hspecial : ∃ c ∈ part.toList, isSpecial c = true) :
    ¬ letters.Holds (String.ofList (decoy part.toList)) part := by
  intro hholds
  rw [Letters.Holds, String.toList_ofList] at hholds
  have hlength := length_decoy_le part.toList
  refine map_decoy_ne letters hspecial (hholds.eq_of_length_le ?_).symm
  simpa using hlength

theorem get?_name_search
    (filter : Filter)
    (page : Page)
    (part : String) :
    (search { filter with name := some part } page).args.get? "name"
      = some (.text ("%" ++ part ++ "%")) := by
  rw [NamedArgs.get?_eq_some_iff, Query.pairs_search]
  exact List.mem_append_left _ (List.mem_map.2 ⟨(.name, _), List.mem_cons_self, rfl⟩)

/-- The pattern that a search binds for a name finds exactly the names that hold the text of the
filter, whatever the case of their letters, if and only if the text is free of percent signs,
underscores and backslashes. -/
theorem name_search_finds_holders_iff
    (letters : Letters)
    (filter : Filter)
    (page : Page)
    (part : String) :
    ∃ pattern,
      (search { filter with name := some part } page).args.get? "name" = some (.text pattern) ∧
      ((∀ name, letters.like? pattern name = some true ↔ letters.Holds name part)
        ↔ ∀ c ∈ part.toList, isSpecial c = false) := by
  refine ⟨"%" ++ part ++ "%", get?_name_search filter page part, ?_, like?_of_plain letters⟩
  intro hfinds c hc
  by_contra hspecial
  rw [Bool.not_eq_false] at hspecial
  exact not_holds_decoy letters ⟨c, hc, hspecial⟩ ((hfinds _).1 (like?_decoy letters part))

/-- A search for `50%` finds a name that holds no percent sign. -/
theorem name_search_finds_stranger :
    ∃ pattern,
      (search { name := some "50%" } default).args.get? "name" = some (.text pattern) ∧
      Letters.ascii.like? pattern "500 m row" = some true ∧
      ¬ Letters.ascii.Holds "500 m row" "50%" := by
  refine ⟨"%50%%", by rfl, by decide, ?_⟩
  unfold Letters.Holds
  decide

end Search

end Exercise
end QueryBatch
