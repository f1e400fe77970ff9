import Mathlib
import QueryBatch.Proofs.Json.Records

/-!
# Lists are read back

The items of a list are read one after the other, each behind its separator. One round of the loop
reads a separator and an item (`reads_itemsWith_next`), and by induction on the items the whole list
is read, whatever its items are (`decodes_list`).
-/

namespace QueryBatch
namespace Json

open Reader

section Separators

variable {levels : Nat} {first : Bool} {blanks separator rest : List Char} {c : Char}

theorem reads_moreItems_close
    (hblanks : Blank blanks)
    (first : Bool) :
    Reads (moreItems first) levels (blanks ++ ']' :: rest) false (']' :: rest) :=
  (reads_peekPart_cons hblanks (by decide)).bind (Reads.pure false levels (']' :: rest))

theorem reads_moreItems_next
    (hseparator : Separates first separator)
    (hspace : isSpace c = false)
    (hbracket : c ≠ ']') :
    Reads (moreItems first) levels (separator ++ c :: rest) true (c :: rest) := by
  cases first with
  | true =>
      unfold moreItems
      refine (reads_peekPart_cons hseparator hspace).bind ?_
      split
      · next heq => exact absurd (Option.some.inj heq) hbracket
      · exact Reads.pure true levels (c :: rest)
      · next heq => cases heq
  | false =>
      obtain ⟨before, behind, hbefore, hbehind, rfl⟩ := hseparator
      rw [List.append_assoc, List.cons_append]
      unfold moreItems
      refine (reads_peekPart_cons hbefore (by decide)).bind ?_
      refine (reads_advance levels ',' _).bind ?_
      refine (reads_peekPart_cons hbehind hspace).bind ?_
      split
      · next heq => exact absurd (Option.some.inj heq) hbracket
      · exact Reads.pure true levels (c :: rest)
      · next heq => cases heq

theorem reads_closeList
    (hblanks : Blank blanks) :
    Reads closeList levels (blanks ++ ']' :: rest) () rest :=
  (reads_peekPart_cons hblanks (by decide)).bind (reads_advance levels ']' rest)

theorem SpellsItems.stops
    {items : List Json}
    {cs : List Char}
    (h : SpellsItems false items cs)
    (rest : List Char) :
    Stops (cs ++ rest) := by
  cases h with
  | close hblanks =>
      rw [List.append_assoc]
      exact stops_append hblanks (by decide) rest
  | next hseparator hitem hrest =>
      obtain ⟨before, behind, hblanks, -, rfl⟩ := hseparator
      rw [List.append_assoc, List.append_assoc]
      exact stops_append hblanks (by decide) _

theorem length_lt_of_spellsItems
    {items : List Json}
    {cs : List Char}
    (h : SpellsItems first items cs) :
    items.length < cs.length := by
  induction items generalizing first cs with
  | nil =>
      cases h
      simp
  | cons v items ih =>
      cases h with
      | next hseparator hitem hrest =>
          obtain ⟨c, text, rfl, -⟩ := hitem.head
          have hlength := ih hrest
          simp only [List.length_cons, List.length_append]
          omega

end Separators

section Lists

variable {α : Type} {height levels fuel : Nat} {item : Reader α} {first : Bool}
variable {cs rest : List Char}

/-- One round of the loop: a separator and an item. -/
theorem reads_itemsWith_next
    {v : Json}
    {a : α}
    {as : List α}
    {separator text : List Char}
    (hitem : Decodes height item v a)
    (hseparator : Separates first separator)
    (hspells : Spells v text)
    (hstops : Stops cs)
    (hlevels : height < levels)
    (hrest : Reads (itemsWith item fuel false) levels cs as rest) :
    Reads (itemsWith item (fuel + 1) first) levels (separator ++ (text ++ cs)) (a :: as) rest := by
  have hread := hitem Blank.nil hspells hstops hlevels
  obtain ⟨c, text, rfl, hspace, hbracket, -⟩ := hspells.head
  rw [List.nil_append, List.cons_append] at hread
  rw [List.cons_append]
  unfold itemsWith
  refine (reads_moreItems_next hseparator hspace hbracket).bind ?_
  rw [if_pos rfl]
  exact hread.bind (hrest.bind (Reads.pure (a :: as) levels rest))

/-- The items of a list, up to its closing bracket. -/
theorem reads_itemsWith
    {items : List Json}
    {as : List α}
    (hitems : List.Forall₂ (Decodes height item) items as)
    (hspells : SpellsItems first items cs)
    (hfuel : items.length < fuel)
    (hlevels : height < levels) :
    Reads (itemsWith item fuel first) levels (cs ++ rest) as (']' :: rest) := by
  induction hitems generalizing first fuel cs with
  | nil =>
      obtain ⟨fuel, rfl⟩ : ∃ less, fuel = less + 1 := ⟨fuel - 1, by omega⟩
      cases hspells with
      | close hblanks =>
          rw [List.append_assoc]
          unfold itemsWith
          exact (reads_moreItems_close hblanks first).bind (Reads.pure [] levels (']' :: rest))
  | cons hitem _ ih =>
      obtain ⟨fuel, rfl⟩ : ∃ less, fuel = less + 1 := ⟨fuel - 1, by omega⟩
      rw [List.length_cons] at hfuel
      cases hspells with
      | next hseparator htext hrest =>
          have hloop := ih hrest (Nat.lt_of_succ_lt_succ hfuel)
          rw [List.append_assoc, List.append_assoc]
          exact reads_itemsWith_next hitem hseparator htext (hrest.stops rest) hlevels hloop

/-- A list whose items are read is read. -/
theorem decodes_list
    {items : List Json}
    {as : List α}
    (hitems : List.Forall₂ (Decodes height item) items as) :
    Decodes (height + 1) (list item) (.array items) as := by
  intro blanks cs rest levels hblanks hspells _ hlevels
  obtain ⟨levels, rfl⟩ : ∃ less, levels = less + 1 := ⟨levels - 1, by omega⟩
  cases hspells with
  | @array _ text hspells =>
      have hfuel : items.length < (text ++ rest).length + 1 := by
        have hlength := length_lt_of_spellsItems hspells
        rw [List.length_append]
        omega
      unfold list
      refine (reads_peekValue hblanks (by decide)).bind ?_
      rw [if_pos rfl]
      refine (Reads.nested (by omega) ?_ '[').placed
      refine (reads_budget levels (text ++ rest)).bind ?_
      exact (reads_itemsWith hitems hspells hfuel (by omega)).closing (reads_closeList Blank.nil)

theorem decodes_strings
    (ss : List String) :
    Decodes 1 readStrings (strings ss) ss := by
  refine decodes_list (List.forall₂_map_left_iff.2 ?_)
  exact List.forall₂_same.2 fun s _ => decodes_string s

end Lists

end Json
end QueryBatch
