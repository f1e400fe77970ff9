import QueryBatch.Exercise.Query
import QueryBatch.Proofs.Sql.Binding

/-!
# Names in texts that are put together

A statement text is often joined from pieces without quotes and comments. Where no name goes on from
one piece into the next, the names of the placeholders are those of the pieces, one after the other.
If all of them have values then the text can be bound, and nothing but digits comes into it.
-/

namespace QueryBatch
namespace Sql

section Defs

/-- All characters of a text pass a test. -/
def AllChars (p : Char → Bool) (text : String) : Prop := ∀ c ∈ text.toList, p c = true

/-- Whether a character can be written and opens neither a quoted run nor a comment. -/
def isOrdinary (c : Char) : Bool :=
  c ≠ '\x00' && c ≠ '\'' && c ≠ '"' && c ≠ '-' && c ≠ '/'

/-- Whether a character always is a token of its own. -/
def isSilent (c : Char) : Bool := isOrdinary c && c ≠ '@'

/-- A text begins with a character that no name goes on with. -/
def Breaks (text : String) : Prop :=
  ∃ c rest, text.toList = c :: rest ∧ Token.isNamePart c = false

/-- The names of the placeholders of a text, in order, with repetitions. -/
def namesIn (text : String) : List String := namesOf (Token.scan text.toList)

/-- A text with the numbers of its names in place of its placeholders, and their values. -/
def numberedForm (text : String) (args : NamedArgs) : Sql where
  text := String.join ((Token.scan text.toList).map (Token.numbered (namesIn text).eraseDups))
  params := (namesIn text).eraseDups.filterMap args.get?
  paramIndex := (namesIn text).eraseDups.length

/-- A text without quotes and comments has these placeholders, in order, with repetitions. -/
structure Mentions (names : List String) (text : String) : Prop where
  ordinary : AllChars isOrdinary text
  names_eq : namesIn text = names

/-- A text can be bound with arguments, and written. -/
structure Ready (args : NamedArgs) (text : String) : Prop where
  ordinary : AllChars isOrdinary text
  values : ∀ name ∈ namesIn text, (args.get? name).isSome

end Defs

section Characters

variable {p q : Char → Bool} {s t : String}

theorem AllChars.literal
    {cs : List Char}
    (hall : cs.all p = true) :
    AllChars p (String.ofList cs) := by
  unfold AllChars
  rw [String.toList_ofList]
  exact List.all_eq_true.mp hall

theorem AllChars.append
    (hs : AllChars p s)
    (ht : AllChars p t) :
    AllChars p (s ++ t) := by
  intro c hc
  rw [String.toList_append, List.mem_append] at hc
  exact hc.elim (hs c) (ht c)

theorem AllChars.imp
    (hs : AllChars p s)
    (hpq : ∀ c, p c = true → q c = true) :
    AllChars q s :=
  fun c hc => hpq c (hs c hc)

theorem AllChars.ordinary
    (hs : AllChars isSilent s) :
    AllChars isOrdinary s :=
  hs.imp fun _ hc => (Bool.and_eq_true_iff.mp hc).1

theorem AllChars.joinWith
    {parts : List String}
    (hs : AllChars p s)
    (hparts : ∀ part ∈ parts, AllChars p part) :
    AllChars p (Text.joinWith s parts) := by
  unfold Text.joinWith
  induction parts with
  | nil => exact AllChars.literal rfl
  | cons part rest ih =>
      have hrest := ih fun other hother => hparts other (List.mem_cons_of_mem _ hother)
      have hpart := hparts part List.mem_cons_self
      cases rest with
      | nil => simpa using hpart
      | cons next others =>
          rw [String.intercalate_cons_cons]
          exact (hpart.append hs).append hrest

end Characters

namespace Token

variable {c d : Char} {cs rest : List Char}

theorem isInert_of_isSilent
    (hc : isSilent c = true) :
    isInert c = true := by
  simp only [isSilent, isOrdinary, isInert, Bool.and_eq_true, decide_eq_true_eq] at hc ⊢
  obtain ⟨⟨⟨⟨⟨-, hsingle⟩, hdouble⟩, hdash⟩, hslash⟩, hat⟩ := hc
  exact ⟨⟨⟨⟨hsingle, hdouble⟩, hdash⟩, hslash⟩, hat⟩

theorem next_of_silent
    (hc : isSilent c = true) :
    next c rest = (.plain c, rest) :=
  next_of_inert (isInert_of_isSilent hc)

theorem scan_of_silent
    (hcs : ∀ c ∈ cs, isSilent c = true) :
    scan (cs ++ rest) = cs.map .plain ++ scan rest :=
  scan_of_inert fun c hc => isInert_of_isSilent (hcs c hc)

/-- What comes after the end of a name does not change it. -/
theorem next_append
    (hc : isOrdinary c = true)
    (hbreak : isNamePart d = false) :
    next c (cs ++ d :: rest) = ((next c cs).1, (next c cs).2 ++ d :: rest) := by
  by_cases hat : c = '@'
  · subst hat
    have hname : ∀ e es, next '@' (e :: es) = if isNameStart e then
        (.placeholder (e :: es.takeWhile isNamePart), es.dropWhile isNamePart)
      else (.plain '@', e :: es) := fun e es => by simp [next]
    have hlast : next '@' [] = (.plain '@', []) := by simp [next]
    cases cs with
    | nil =>
        have hstart : isNameStart d = false := by
          simp only [isNamePart, isNameStart, Char.isAlphanum, Bool.or_eq_false_iff] at hbreak ⊢
          exact ⟨hbreak.1.1, hbreak.2⟩
        simp [hname, hlast, hstart]
    | cons e es =>
        have htake : (es ++ d :: rest).takeWhile isNamePart = es.takeWhile isNamePart := by
          rw [List.takeWhile_append]
          split
          · next hall =>
              rw [List.takeWhile_cons_of_neg (by simp [hbreak]), List.append_nil,
                (List.takeWhile_prefix isNamePart).eq_of_length hall]
          · rfl
        have hdrop : (es ++ d :: rest).dropWhile isNamePart
            = es.dropWhile isNamePart ++ d :: rest := by
          rw [List.dropWhile_append]
          split
          · next hnone =>
              rw [List.dropWhile_cons_of_neg (by simp [hbreak]), List.isEmpty_iff.mp hnone,
                List.nil_append]
          · rfl
        rw [List.cons_append, hname, hname, htake, hdrop]
        split <;> rfl
  · have hsilent : isSilent c = true := by simp [isSilent, hc, hat]
    rw [next_of_silent hsilent, next_of_silent hsilent]

/-- Tokens end where a name does, outside of quotes and comments. -/
theorem scan_append
    (hcs : ∀ c ∈ cs, isOrdinary c = true)
    (hbreak : isNamePart d = false) :
    scan (cs ++ d :: rest) = scan cs ++ scan (d :: rest) := by
  fun_induction scan cs with
  | case1 => rfl
  | case2 c cs ih =>
      have hleft : ∀ e ∈ (next c cs).2, isOrdinary e = true := by
        intro e he
        refine hcs e ?_
        rw [← text_next c cs]
        exact List.mem_append_right _ he
      rw [List.cons_append, scan, next_append (hcs c List.mem_cons_self) hbreak, List.cons_append,
        ih hleft]

end Token

section Names

variable {s t text : String} {args : NamedArgs}

theorem Breaks.literal
    {c : Char}
    {cs : List Char}
    (hbreak : Token.isNamePart c = false) :
    Breaks (String.ofList (c :: cs)) :=
  ⟨c, cs, String.toList_ofList, hbreak⟩

theorem Breaks.append
    (hs : Breaks s)
    (t : String) :
    Breaks (s ++ t) := by
  obtain ⟨c, rest, hlist, hbreak⟩ := hs
  exact ⟨c, rest ++ t.toList, by rw [String.toList_append, hlist, List.cons_append], hbreak⟩

theorem namesIn_literal
    {cs : List Char}
    {names : List String}
    (hscan : namesOf (Token.scan cs) = names) :
    namesIn (String.ofList cs) = names := by
  rwa [namesIn, String.toList_ofList]

theorem namesIn_of_silent
    (hs : AllChars isSilent s) :
    namesIn s = [] := by
  have hscan : Token.scan (s.toList ++ []) = s.toList.map .plain ++ Token.scan [] :=
    Token.scan_of_silent hs
  rw [List.append_nil] at hscan
  unfold namesIn
  rw [hscan]
  simp [Token.scan, namesOf, Token.name?]

theorem namesIn_silent_append
    (hs : AllChars isSilent s) :
    namesIn (s ++ t) = namesIn t := by
  unfold namesIn
  rw [String.toList_append, Token.scan_of_silent hs, namesOf_append]
  simp [namesOf, Token.name?]

theorem namesIn_append
    (hs : AllChars isOrdinary s)
    (ht : Breaks t) :
    namesIn (s ++ t) = namesIn s ++ namesIn t := by
  obtain ⟨c, rest, hlist, hbreak⟩ := ht
  unfold namesIn
  rw [String.toList_append, hlist, Token.scan_append hs hbreak, namesOf_append]

/-- The names of pieces that are joined by a text without placeholders. -/
theorem namesIn_joinWith
    {parts : List String}
    (hbreaks : Breaks s)
    (hsilent : AllChars isSilent s)
    (hparts : ∀ part ∈ parts, AllChars isOrdinary part) :
    namesIn (Text.joinWith s parts) = parts.flatMap namesIn := by
  unfold Text.joinWith
  induction parts with
  | nil => exact namesIn_of_silent (AllChars.literal rfl)
  | cons part rest ih =>
      have hrest := ih fun other hother => hparts other (List.mem_cons_of_mem _ hother)
      cases rest with
      | nil => simp
      | cons next others =>
          rw [String.intercalate_cons_cons, String.append_assoc,
            namesIn_append (hparts part List.mem_cons_self) (hbreaks.append _),
            namesIn_silent_append hsilent, hrest]
          rfl

/-- Nothing but numbers comes into a text when it is bound. -/
theorem AllChars.numberedForm
    {p : Char → Bool}
    (hdollar : p '$' = true)
    (hdigit : ∀ c : Char, c.isDigit = true → p c = true)
    (htext : AllChars p text) :
    AllChars p (numberedForm text args).text := by
  intro c hc
  have hmem : ∃ token ∈ Token.scan text.toList,
      c ∈ (token.numbered (namesIn text).eraseDups).toList := by
    simpa [Sql.numberedForm, String.toList_join] using hc
  obtain ⟨token, htoken, hc⟩ := hmem
  have hkept : ∀ d ∈ token.text, p d = true := by
    intro d hd
    refine htext d ?_
    rw [← Token.flatMap_text_scan text.toList]
    exact List.mem_flatMap.mpr ⟨token, htoken, hd⟩
  cases token with
  | placeholder name =>
      rw [Token.numbered, String.toList_append, List.mem_append] at hc
      rcases hc with hc | hc
      · obtain rfl : c = '$' := by simpa using hc
        exact hdollar
      · have hdigits :
            c ∈ Nat.toDigits 10 ((namesIn text).eraseDups.idxOf (String.ofList name) + 1) :=
          by simpa using hc
        exact hdigit c (Nat.isDigit_of_mem_toDigits (by decide) (by decide) hdigits)
  | quoted cs => exact hkept c (by simpa [Token.numbered] using hc)
  | comment cs => exact hkept c (by simpa [Token.numbered] using hc)
  | plain d => exact hkept c (by simpa [Token.numbered] using hc)

end Names

namespace Mentions

variable {names others : List String} {s t text : String}

theorem of_silent
    (hs : AllChars isSilent s) :
    Mentions [] s :=
  ⟨hs.ordinary, namesIn_of_silent hs⟩

theorem literal
    {cs : List Char}
    (names : List String)
    (hordinary : cs.all isOrdinary = true)
    (hscan : namesOf (Token.scan cs) = names) :
    Mentions names (String.ofList cs) :=
  ⟨.literal hordinary, namesIn_literal hscan⟩

protected theorem append
    (hs : Mentions names s)
    (ht : Mentions others t)
    (hbreaks : Breaks t) :
    Mentions (names ++ others) (s ++ t) where
  ordinary := hs.ordinary.append ht.ordinary
  names_eq := by rw [namesIn_append hs.ordinary hbreaks, hs.names_eq, ht.names_eq]

theorem silent_append
    (hs : AllChars isSilent s)
    (ht : Mentions names t) :
    Mentions names (s ++ t) where
  ordinary := hs.ordinary.append ht.ordinary
  names_eq := by rw [namesIn_silent_append hs, ht.names_eq]

theorem joinWith
    {parts : List String}
    {namess : List (List String)}
    (hbreaks : Breaks s)
    (hsilent : AllChars isSilent s)
    (hparts : List.Forall₂ Mentions namess parts) :
    Mentions namess.flatten (Text.joinWith s parts) := by
  have hordinary : ∀ part ∈ parts, AllChars isOrdinary part := by
    induction hparts with
    | nil => exact fun _ hpart => absurd hpart List.not_mem_nil
    | cons hpart hrest ih => exact List.forall_mem_cons.2 ⟨hpart.ordinary, ih⟩
  refine ⟨.joinWith hsilent.ordinary hordinary, ?_⟩
  rw [namesIn_joinWith hbreaks hsilent hordinary]
  induction hparts with
  | nil => rfl
  | cons hpart hrest ih =>
      rw [List.flatMap_cons, List.flatten_cons, hpart.names_eq,
        ih fun part hpart => hordinary part (List.mem_cons_of_mem _ hpart)]

theorem ready
    {args : NamedArgs}
    (htext : Mentions names text)
    (hvalues : names.all (fun name => (args.get? name).isSome) = true) :
    Ready args text :=
  ⟨htext.ordinary, fun name hname => List.all_eq_true.mp hvalues name (htext.names_eq ▸ hname)⟩

end Mentions

namespace Ready

variable {text : String} {args : NamedArgs}

theorem bind
    (hready : Ready args text) :
    (Arguments.named args).bind text = .ok (numberedForm text args) := by
  have hnone : (namesOf (Token.scan text.toList)).find? (fun name => (args.get? name).isNone)
      = none := by
    rw [List.find?_eq_none]
    intro name hname
    simpa [Option.isSome_iff_ne_none] using hready.values name hname
  have hbind : (Arguments.named args).bind text = boundForm text args :=
    bindNamed_eq_boundForm text args
  rw [hbind, boundForm, hnone]
  rfl

theorem notNull
    (hready : Ready args text) :
    '\x00' ∉ (numberedForm text args).text.toList := by
  intro hmem
  have hkept : AllChars (fun c => c ≠ '\x00') (numberedForm text args).text := by
    refine AllChars.numberedForm (by decide) (fun c hc => ?_) (hready.ordinary.imp fun c hc => ?_)
    · by_contra hnull
      obtain rfl : c = '\x00' := by simpa using hnull
      simp at hc
    · simp only [isOrdinary, Bool.and_eq_true] at hc
      exact hc.1.1.1.1
  simpa using hkept _ hmem

end Ready
end Sql
end QueryBatch
