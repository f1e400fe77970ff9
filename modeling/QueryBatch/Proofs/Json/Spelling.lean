import Mathlib
import QueryBatch.Proofs.Json.Scalars

/-!
# Texts that spell a value

A value has many texts, which differ in the blanks between their parts. `Spells v cs` covers them
all. The layouts over several lines and on one line are among them, as long as no floating point
number is written (`spells_renderLines`, `spells_render`).

`Decodes height r v a` says of a reader that it reads every text of the value as one datum, whatever
follows, if more than `height` levels of nesting are left. Texts, truth values and natural numbers
are read so, and data that may be null.
-/

namespace QueryBatch
namespace Json

open Reader

/-- What stands before an item or the name of a field: blanks, and a comma but for the first. -/
def Separates (first : Bool) (cs : List Char) : Prop :=
  if first then Blank cs
  else ∃ before behind, Blank before ∧ Blank behind ∧ cs = before ++ ',' :: behind

mutual

/-- The characters spell the value. -/
inductive Spells : Json → List Char → Prop
  | null : Spells .null ['n', 'u', 'l', 'l']
  | yes : Spells (.bool true) ['t', 'r', 'u', 'e']
  | no : Spells (.bool false) ['f', 'a', 'l', 's', 'e']
  | int (n : Int) : Spells (.number (.int n)) (toString n).toList
  | string (s : String) : Spells (.string s) (renderString s)
  | array
      {items : List Json}
      {cs : List Char}
      (hitems : SpellsItems true items cs) :
      Spells (.array items) ('[' :: cs)
  | object
      {fields : List (String × Json)}
      {cs : List Char}
      (hfields : SpellsFields true fields cs) :
      Spells (.object fields) ('\x7b' :: cs)

/-- The characters spell the items, up to and including the bracket. -/
inductive SpellsItems : Bool → List Json → List Char → Prop
  | close
      {first : Bool}
      {blanks : List Char}
      (hblanks : Blank blanks) :
      SpellsItems first [] (blanks ++ [']'])
  | next
      {first : Bool}
      {v : Json}
      {items : List Json}
      {separator cs rest : List Char}
      (hseparator : Separates first separator)
      (hitem : Spells v cs)
      (hrest : SpellsItems false items rest) :
      SpellsItems first (v :: items) (separator ++ (cs ++ rest))

/-- The characters spell the fields, up to and including the brace. -/
inductive SpellsFields : Bool → List (String × Json) → List Char → Prop
  | close
      {first : Bool}
      {blanks : List Char}
      (hblanks : Blank blanks) :
      SpellsFields first [] (blanks ++ ['\x7d'])
  | next
      {first : Bool}
      (name : String)
      {v : Json}
      {fields : List (String × Json)}
      {separator before behind cs rest : List Char}
      (hseparator : Separates first separator)
      (hbefore : Blank before)
      (hbehind : Blank behind)
      (hfield : Spells v cs)
      (hrest : SpellsFields false fields rest) :
      SpellsFields first ((name, v) :: fields)
        (separator ++ (renderString name ++ (before ++ ':' :: (behind ++ (cs ++ rest)))))

end

mutual

/-- Whether a value holds no floating point number. -/
def isExact : Json → Bool
  | .number (.float _) => false
  | .number (.int _) => true
  | .array items => exactItems items
  | .object fields => exactFields fields
  | .null => true
  | .bool _ => true
  | .string _ => true

/-- Whether items hold no floating point number. -/
def exactItems : List Json → Bool
  | [] => true
  | v :: rest => isExact v && exactItems rest

/-- Whether fields hold no floating point number. -/
def exactFields : List (String × Json) → Bool
  | [] => true
  | (_, v) :: rest => isExact v && exactFields rest

end

section Layouts

theorem blank_newline
    (depth : Nat) :
    Blank (newline depth) := by
  intro c hc
  rcases List.mem_cons.1 hc with rfl | hc
  · decide
  · rw [List.eq_of_mem_replicate hc]
    decide

theorem blank_space :
    Blank [' '] := by
  simp [Blank, isSpace]

/-- A comma that the layout has put behind what came before. -/
def comma (first : Bool) : List Char := if first then [] else [',']

theorem separates_comma
    {blanks : List Char}
    (hblank : Blank blanks)
    (first : Bool) :
    Separates first (comma first ++ blanks) := by
  cases first with
  | true => exact hblank
  | false => exact ⟨[], blanks, Blank.nil, hblank, rfl⟩

mutual

/-- What is written over several lines spells the value. -/
theorem spells_renderLines
    (depth : Nat) :
    ∀ v : Json, v.isExact = true → Spells v (renderLines depth v)
  | .null, _ => by simpa [renderLines, render] using Spells.null
  | .bool true, _ => by simpa [renderLines, render] using Spells.yes
  | .bool false, _ => by simpa [renderLines, render] using Spells.no
  | .number (.int n), _ => Spells.int n
  | .number (.float x), h => by cases h
  | .string s, _ => Spells.string s
  | .array [], _ => Spells.array (SpellsItems.close Blank.nil)
  | .array (v :: items), h =>
      Spells.array (spells_renderItemLines depth true (v :: items) (by simp) h)
  | .object [], _ => Spells.object (SpellsFields.close Blank.nil)
  | .object (field :: fields), h =>
      Spells.object (spells_renderFieldLines depth true (field :: fields) (by simp) h)

theorem spells_renderItemLines
    (depth : Nat)
    (first : Bool) :
    ∀ items : List Json, items ≠ [] → exactItems items = true →
      SpellsItems first items (comma first ++ renderItemLines depth items)
  | [], hne, _ => absurd rfl hne
  | [v], _, h => by
      have hitem := spells_renderLines (depth + 1) v (Bool.and_eq_true_iff.1 h).1
      have hclose : SpellsItems false [] (newline depth ++ [']']) :=
        SpellsItems.close (blank_newline depth)
      have hitems := SpellsItems.next (separates_comma (blank_newline (depth + 1)) first) hitem
        hclose
      simpa only [renderItemLines, List.append_assoc] using hitems
  | v :: next :: items, _, h => by
      have hitem := spells_renderLines (depth + 1) v (Bool.and_eq_true_iff.1 h).1
      have hrest : SpellsItems false (next :: items)
          (',' :: renderItemLines depth (next :: items)) :=
        spells_renderItemLines depth false (next :: items) (by simp) (Bool.and_eq_true_iff.1 h).2
      have hitems := SpellsItems.next (separates_comma (blank_newline (depth + 1)) first) hitem
        hrest
      have htext : renderItemLines depth (v :: next :: items)
          = newline (depth + 1) ++ renderLines (depth + 1) v
            ++ ',' :: renderItemLines depth (next :: items) := rfl
      simpa only [htext, List.append_assoc] using hitems

theorem spells_renderFieldLines
    (depth : Nat)
    (first : Bool) :
    ∀ fields : List (String × Json), fields ≠ [] → exactFields fields = true →
      SpellsFields first fields (comma first ++ renderFieldLines depth fields)
  | [], hne, _ => absurd rfl hne
  | [(name, v)], _, h => by
      have hfield := spells_renderLines (depth + 1) v (Bool.and_eq_true_iff.1 h).1
      have hclose : SpellsFields false [] (newline depth ++ ['\x7d']) :=
        SpellsFields.close (blank_newline depth)
      have hfields := SpellsFields.next name (separates_comma (blank_newline (depth + 1)) first)
        Blank.nil blank_space hfield hclose
      simpa only [renderFieldLines, List.append_assoc, List.cons_append, List.nil_append] using
        hfields
  | (name, v) :: next :: fields, _, h => by
      have hfield := spells_renderLines (depth + 1) v (Bool.and_eq_true_iff.1 h).1
      have hrest : SpellsFields false (next :: fields)
          (',' :: renderFieldLines depth (next :: fields)) :=
        spells_renderFieldLines depth false (next :: fields) (by simp) (Bool.and_eq_true_iff.1 h).2
      have hfields := SpellsFields.next name (separates_comma (blank_newline (depth + 1)) first)
        Blank.nil blank_space hfield hrest
      have htext : renderFieldLines depth ((name, v) :: next :: fields)
          = newline (depth + 1) ++ renderString name
            ++ ':' :: ' ' :: renderLines (depth + 1) v
            ++ ',' :: renderFieldLines depth (next :: fields) := rfl
      simpa only [htext, List.append_assoc, List.cons_append, List.nil_append] using hfields

end

mutual

/-- What is written on one line spells the value. -/
theorem spells_render :
    ∀ v : Json, v.isExact = true → Spells v (render v)
  | .null, _ => by simpa [render] using Spells.null
  | .bool true, _ => by simpa [render] using Spells.yes
  | .bool false, _ => by simpa [render] using Spells.no
  | .number (.int n), _ => Spells.int n
  | .number (.float x), h => by cases h
  | .string s, _ => Spells.string s
  | .array [], _ => Spells.array (SpellsItems.close Blank.nil)
  | .array (v :: items), h => Spells.array (spells_renderItems true (v :: items) (by simp) h)
  | .object [], _ => Spells.object (SpellsFields.close Blank.nil)
  | .object (field :: fields), h =>
      Spells.object (spells_renderFields true (field :: fields) (by simp) h)

theorem spells_renderItems
    (first : Bool) :
    ∀ items : List Json, items ≠ [] → exactItems items = true →
      SpellsItems first items (comma first ++ renderItems items)
  | [], hne, _ => absurd rfl hne
  | [v], _, h => by
      have hitem := spells_render v (Bool.and_eq_true_iff.1 h).1
      have hclose : SpellsItems false [] ([] ++ [']']) := SpellsItems.close Blank.nil
      have hitems := SpellsItems.next (separates_comma Blank.nil first) hitem hclose
      simpa only [renderItems, List.append_nil, List.nil_append] using hitems
  | v :: next :: items, _, h => by
      have hitem := spells_render v (Bool.and_eq_true_iff.1 h).1
      have hrest : SpellsItems false (next :: items) (',' :: renderItems (next :: items)) :=
        spells_renderItems false (next :: items) (by simp) (Bool.and_eq_true_iff.1 h).2
      have hitems := SpellsItems.next (separates_comma Blank.nil first) hitem hrest
      have htext : renderItems (v :: next :: items)
          = render v ++ ',' :: renderItems (next :: items) := rfl
      simpa only [htext, List.append_nil] using hitems

theorem spells_renderFields
    (first : Bool) :
    ∀ fields : List (String × Json), fields ≠ [] → exactFields fields = true →
      SpellsFields first fields (comma first ++ renderFields fields)
  | [], hne, _ => absurd rfl hne
  | [(name, v)], _, h => by
      have hfield := spells_render v (Bool.and_eq_true_iff.1 h).1
      have hclose : SpellsFields false [] ([] ++ ['\x7d']) := SpellsFields.close Blank.nil
      have hfields := SpellsFields.next name (separates_comma Blank.nil first) Blank.nil Blank.nil
        hfield hclose
      simpa only [renderFields, List.append_nil, List.nil_append] using hfields
  | (name, v) :: next :: fields, _, h => by
      have hfield := spells_render v (Bool.and_eq_true_iff.1 h).1
      have hrest : SpellsFields false (next :: fields) (',' :: renderFields (next :: fields)) :=
        spells_renderFields false (next :: fields) (by simp) (Bool.and_eq_true_iff.1 h).2
      have hfields := SpellsFields.next name (separates_comma Blank.nil first) Blank.nil Blank.nil
        hfield hrest
      have htext : renderFields ((name, v) :: next :: fields)
          = renderString name ++ ':' :: (render v ++ ',' :: renderFields (next :: fields)) := rfl
      simpa only [htext, List.append_nil, List.nil_append] using hfields

end

end Layouts

/-- A reader reads every text of a value as one datum, whatever follows, if more than so many levels
of nesting are left. -/
def Decodes (height : Nat) (r : Reader α) (v : Json) (a : α) : Prop :=
  ∀ ⦃blanks cs rest levels⦄, Blank blanks → Spells v cs → Stops rest → height < levels →
    Reads r levels (blanks ++ (cs ++ rest)) a rest

section Data

variable {height : Nat} {r : Reader α} {v : Json} {a : α}

theorem Decodes.mono
    {higher : Nat}
    (h : Decodes height r v a)
    (hle : height ≤ higher) :
    Decodes higher r v a :=
  fun _ _ _ _ hblanks hspells hstops hlevels =>
    h hblanks hspells hstops (Nat.lt_of_le_of_lt hle hlevels)

/-- What is made of the datum without reading on. -/
theorem Decodes.bind
    {f : α → Reader β}
    {b : β}
    (h : Decodes height r v a)
    (hthen : ∀ levels rest, Reads (f a) levels rest b rest) :
    Decodes height (r >>= f) v b :=
  fun _ _ rest levels hblanks hspells hstops hlevels =>
    (h hblanks hspells hstops hlevels).bind (hthen levels rest)

theorem Decodes.map
    (f : α → β)
    (h : Decodes height r v a) :
    Decodes height (f <$> r) v (f a) := by
  rw [map_eq_pure_bind]
  exact h.bind (Reads.pure (f a))

/-- A whole text, which may end in blanks. -/
theorem Decodes.onText
    {cs blanks : List Char}
    (h : Decodes height r v a)
    (hheight : height < 128)
    (hspells : Spells v cs)
    (hblanks : Blank blanks) :
    r.onText (String.ofList (cs ++ blanks)) = .ok a := by
  have hstops : Stops blanks := by
    intro c hc
    simp [isEnd, hblanks c (List.mem_of_mem_head? hc)]
  have hwhole : Reads (do let a ← r; finish; return a) 128 (cs ++ blanks) a [] :=
    (h Blank.nil hspells hstops hheight).bind ((reads_finish hblanks).bind (Reads.pure a 128 []))
  obtain ⟨after, hwhole⟩ := hwhole ⟨1, 0⟩
  unfold Reader.onText Cursor.start
  rw [String.toList_ofList, hwhole]

theorem isSpace_of_isDigit
    {c : Char}
    (hc : c.isDigit = true) :
    isSpace c = false := by
  by_contra hspace
  simp only [isSpace, Bool.not_eq_false, Bool.or_eq_true, decide_eq_true_eq] at hspace
  rcases hspace with ((rfl | rfl) | rfl) | rfl <;> exact absurd hc (by decide)

/-- A text starts with a mark of its kind, and only null with an `n`. -/
theorem Spells.head
    {cs : List Char}
    (h : Spells v cs) :
    ∃ c rest, cs = c :: rest ∧ isSpace c = false ∧ c ≠ ']' ∧ (c = 'n' → v = .null) := by
  cases h with
  | null => exact ⟨'n', _, rfl, by decide, by decide, fun _ => rfl⟩
  | yes => exact ⟨'t', _, rfl, by decide, by decide, fun h => absurd h (by decide)⟩
  | no => exact ⟨'f', _, rfl, by decide, by decide, fun h => absurd h (by decide)⟩
  | int n =>
      cases n with
      | ofNat n =>
          obtain ⟨c, digits, hdigits, hc, -⟩ := toDigits_cons n
          refine ⟨c, digits, Nat.toList_repr.trans hdigits, isSpace_of_isDigit hc, ?_, ?_⟩
          · rintro rfl
            exact absurd hc (by decide)
          · rintro rfl
            exact absurd hc (by decide)
      | negSucc n =>
          have hminus : toString (Int.negSucc n) = "-" ++ (n + 1).repr := rfl
          refine ⟨'-', Nat.toDigits 10 (n + 1), ?_, by decide, by decide, fun h => ?_⟩
          · simp [hminus]
          · exact absurd h (by decide)
  | string s => exact ⟨'"', _, rfl, by decide, by decide, fun h => absurd h (by decide)⟩
  | array hitems => exact ⟨'[', _, rfl, by decide, by decide, fun h => absurd h (by decide)⟩
  | object hfields => exact ⟨'\x7b', _, rfl, by decide, by decide, fun h => absurd h (by decide)⟩

theorem renderString_append
    (s : String)
    (rest : List Char) :
    renderString s ++ rest = '"' :: (s.toList.flatMap escapedChar ++ '"' :: rest) := by
  simp [renderString]

theorem decodes_string
    (s : String) :
    Decodes 0 Reader.string (.string s) s := by
  intro blanks cs rest levels hblanks hspells _ _
  cases hspells
  rw [renderString_append]
  unfold Reader.string
  refine (reads_peekValue hblanks (by decide)).bind ?_
  rw [if_pos rfl]
  exact (reads_advance levels '"' _).bind (reads_stringTail levels s rest)

/-- A text with a meaning of its own is read as what it means. -/
theorem decodes_stringAs
    {meaning : String → Except String α}
    {s : String}
    (hmeaning : meaning s = .ok a)
    (expected : String) :
    Decodes 0 (stringAs expected meaning) (.string s) a := by
  intro blanks cs rest levels hblanks hspells _ _
  cases hspells
  rw [renderString_append]
  unfold stringAs
  refine (reads_peekValue hblanks (by decide)).bind ?_
  rw [if_pos rfl]
  refine (reads_advance levels '"' _).bind ?_
  refine (reads_stringTail levels s rest).bind ?_
  rw [hmeaning]
  exact Reads.pure a levels rest

theorem decodes_bool
    (b : Bool) :
    Decodes 0 Reader.bool (.bool b) b := by
  intro blanks cs rest levels hblanks hspells _ _
  cases hspells with
  | yes =>
      refine (reads_peekValue hblanks (by decide)).bind ?_
      refine (reads_advance levels 't' _).bind ?_
      exact (reads_identifier levels ['r', 'u', 'e'] rest).bind (Reads.pure true levels rest)
  | no =>
      refine (reads_peekValue hblanks (by decide)).bind ?_
      refine (reads_advance levels 'f' _).bind ?_
      exact (reads_identifier levels ['a', 'l', 's', 'e'] rest).bind (Reads.pure false levels rest)

theorem decodes_natural
    {n least greatest : Nat}
    (hleast : least ≤ n)
    (hgreatest : n ≤ greatest)
    (hbits : greatest ≤ greatestSignificand)
    (expected : String) :
    Decodes 0 (natural expected least greatest) (.nat n) n := by
  intro blanks cs rest levels hblanks hspells hstops _
  obtain ⟨c, digits, hdigits, hc, -⟩ := toDigits_cons n
  have htext : cs = Nat.toDigits 10 n := by
    cases hspells
    exact Nat.toList_repr
  have hnumber : Reads Reader.number levels (Nat.toDigits 10 n ++ rest) (.int n) rest :=
    reads_number (hgreatest.trans hbits) hstops
  rw [htext]
  rw [hdigits, List.cons_append] at hnumber ⊢
  unfold natural
  refine (reads_peekValue hblanks (isSpace_of_isDigit hc)).bind ?_
  rw [if_pos (.inr hc)]
  refine hnumber.bind ?_
  have hrange : (least : Int) ≤ (n : Int) ∧ (n : Int) ≤ greatest := by omega
  simp only [if_pos hrange, Int.toNat_natCast]
  exact Reads.pure n levels rest

theorem decodes_optional_null
    (r : Reader α) :
    Decodes 0 (optional r) .null none := by
  intro blanks cs rest levels hblanks hspells _ _
  cases hspells
  refine (reads_peekPart_cons hblanks (by decide)).bind ?_
  refine (reads_advance levels 'n' _).bind ?_
  exact (reads_identifier levels ['u', 'l', 'l'] rest).bind (Reads.pure none levels rest)

theorem Decodes.optional
    (h : Decodes height r v a)
    (hv : v ≠ .null) :
    Decodes height (optional r) v (some a) := by
  intro blanks cs rest levels hblanks hspells hstops hlevels
  obtain ⟨c, tail, rfl, hspace, -, hnull⟩ := hspells.head
  have hc : c ≠ 'n' := fun hc => hv (hnull hc)
  have hread := h Blank.nil hspells hstops hlevels
  rw [List.nil_append] at hread
  unfold Reader.optional
  refine (reads_peekPart_cons hblanks hspace).bind ?_
  split
  · next heq => exact absurd (Option.some.inj heq) hc
  · exact hread.bind (Reads.pure (some a) levels rest)

end Data

end Json
end QueryBatch
