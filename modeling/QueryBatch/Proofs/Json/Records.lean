import Mathlib
import QueryBatch.Proofs.Json.Spelling

/-!
# Records are read back

The fields of an object are read one after the other. One step of the loop reads a separator, a name
and a datum (`reads_fromFields_next`), and by induction on the fields the whole record is read. What
the fields that were written make of an empty record is said by `Fills`; the fields that were left
out are completed at the closing brace. Values of any kind are read by loops of their own, of which
the rounds that texts and an object of one text need are here.
-/

namespace QueryBatch
namespace Json

open Reader

section Separators

variable {levels : Nat} {first : Bool} {blanks separator rest : List Char}

theorem isSpace_isEnd
    {c : Char}
    (hc : isSpace c = true) :
    isEnd c = true := by
  simp [isEnd, hc]

/-- Blanks and a mark that ends a value. -/
theorem stops_append
    {c : Char}
    (hblanks : Blank blanks)
    (hc : isEnd c = true)
    (rest : List Char) :
    Stops (blanks ++ c :: rest) := by
  cases blanks with
  | nil => exact Stops.of_isEnd hc rest
  | cons b blanks => exact Stops.of_isEnd (isSpace_isEnd (hblanks b List.mem_cons_self)) _

theorem SpellsFields.stops
    {fields : List (String × Json)}
    {cs : List Char}
    (h : SpellsFields false fields cs)
    (rest : List Char) :
    Stops (cs ++ rest) := by
  cases h with
  | close hblanks =>
      rw [List.append_assoc]
      exact stops_append hblanks (by decide) rest
  | next name hseparator hbefore hbehind hfield hrest =>
      obtain ⟨before, behind, hblanks, -, rfl⟩ := hseparator
      rw [List.append_assoc, List.append_assoc]
      exact stops_append hblanks (by decide) _

theorem reads_moreFields_close
    (hblanks : Blank blanks)
    (first : Bool) :
    Reads (moreFields first) levels (blanks ++ '\x7d' :: rest) false ('\x7d' :: rest) :=
  (reads_peekPart_cons hblanks (by decide)).bind (Reads.pure false levels ('\x7d' :: rest))

theorem reads_moreFields_next
    (hseparator : Separates first separator) :
    Reads (moreFields first) levels (separator ++ '"' :: rest) true ('"' :: rest) := by
  cases first with
  | true =>
      unfold moreFields
      refine (reads_peekPart_cons hseparator (by decide)).bind ?_
      exact Reads.pure true levels ('"' :: rest)
  | false =>
      obtain ⟨before, behind, hbefore, hbehind, rfl⟩ := hseparator
      rw [List.append_assoc, List.cons_append]
      unfold moreFields
      refine (reads_peekPart_cons hbefore (by decide)).bind ?_
      refine (reads_advance levels ',' _).bind ?_
      exact (reads_peekPart_cons hbehind (by decide)).bind (Reads.pure true levels ('"' :: rest))

end Separators

section Records

variable {σ : Type} {height levels : Nat} {shape : Shape σ} {record next filled : σ}
variable {fields : List (String × Json)} {cs rest : List Char}

/-- The fields that are written, with their texts, make one record of another. -/
inductive Fills (height : Nat) (shape : Shape σ) : σ → List (String × Json) → σ → Prop
  | done (record : σ) : Fills height shape record [] record
  | field
      {record next filled : σ}
      {name : String}
      {v : Json}
      {fields : List (String × Json)}
      {field : Reader.Field σ}
      (hfind : shape.fields.find? (fun field => field.name = name) = some field)
      (habsent : field.present record = false)
      (hread : Decodes height (field.read record) v next)
      (hrest : Fills height shape next fields filled) :
      Fills height shape record ((name, v) :: fields) filled

section Fields

variable {α : Type} {r : Reader α} {name : String} {v : Json} {a : α}

theorem Fills.required
    {get : σ → Option α}
    {set : α → σ → σ}
    (hfind : shape.fields.find? (fun field => field.name = name)
      = some (requiredField name get set r))
    (habsent : (get record).isSome = false)
    (hread : Decodes height r v a)
    (hrest : Fills height shape (set a record) fields filled) :
    Fills height shape record ((name, v) :: fields) filled :=
  .field hfind habsent (hread.bind (Reads.pure (set a record))) hrest

theorem Fills.default
    {get : σ → Option α}
    {set : α → σ → σ}
    {value : α}
    (hfind : shape.fields.find? (fun field => field.name = name)
      = some (defaultField name get set value r))
    (habsent : (get record).isSome = false)
    (hread : Decodes height r v a)
    (hrest : Fills height shape (set a record) fields filled) :
    Fills height shape record ((name, v) :: fields) filled :=
  .field hfind habsent (hread.bind (Reads.pure (set a record))) hrest

theorem Fills.optional
    {get : σ → Option (Option α)}
    {set : Option α → σ → σ}
    {datum : Option α}
    (hfind : shape.fields.find? (fun field => field.name = name)
      = some (optionalField name get set r))
    (habsent : (get record).isSome = false)
    (hread : Decodes height (Reader.optional r) v datum)
    (hrest : Fills height shape (set datum record) fields filled) :
    Fills height shape record ((name, v) :: fields) filled :=
  .field hfind habsent (hread.bind (Reads.pure (set datum record))) hrest

end Fields

/-- A record with one of the fields that it still lacks. -/
def completeField (record : σ) (field : Reader.Field σ) : Option σ :=
  if field.present record then some record else field.absent record

theorem reads_complete
    {missing : List (Reader.Field σ)}
    {start : σ}
    (hcomplete : missing.foldlM completeField start = some filled)
    (levels : Nat)
    (cs : List Char) :
    Reads (missing.foldlM (fun record field =>
        if field.present record then pure record
        else
          match field.absent record with
          | some record => pure record
          | none => throw ⟨.missingField field.name, none⟩) start : Reader σ)
      levels cs filled cs := by
  induction missing generalizing start with
  | nil =>
      cases hcomplete
      exact Reads.pure _ levels cs
  | cons field missing ih =>
      obtain ⟨next, hfield, hrest⟩ := Option.bind_eq_some_iff.1 hcomplete
      rw [List.foldlM_cons]
      unfold completeField at hfield
      by_cases hpresent : field.present start = true
      · rw [if_pos hpresent] at hfield ⊢
        cases hfield
        exact (Reads.pure start levels cs).bind (ih hrest)
      · rw [if_neg hpresent] at hfield ⊢
        rw [hfield]
        exact (Reads.pure next levels cs).bind (ih hrest)

theorem length_lt_of_spellsFields
    {first : Bool}
    (h : SpellsFields first fields cs) :
    fields.length < cs.length := by
  induction fields generalizing first cs with
  | nil =>
      cases h
      simp
  | cons field fields ih =>
      cases h with
      | next name hseparator hbefore hbehind hfield hrest =>
          have hlength := ih hrest
          simp only [List.length_cons, List.length_append]
          omega

/-- One round of the loop: a separator, a name, a colon and the datum of the field. -/
theorem reads_fromFields_next
    {first : Bool}
    {fuel : Nat}
    {name : String}
    {field : Reader.Field σ}
    {v : Json}
    {separator before behind text : List Char}
    (hfind : shape.fields.find? (fun field => field.name = name) = some field)
    (habsent : field.present record = false)
    (hread : Decodes height (field.read record) v next)
    (hseparator : Separates first separator)
    (hbefore : Blank before)
    (hbehind : Blank behind)
    (hfield : Spells v text)
    (hstops : Stops cs)
    (hlevels : height < levels)
    (hrest : Reads (fromFields shape fuel false next) levels cs filled rest) :
    Reads (fromFields shape (fuel + 1) first record) levels
      (separator ++ (renderString name ++ (before ++ ':' :: (behind ++ (text ++ cs))))) filled
      rest := by
  rw [renderString_append]
  unfold fromFields
  refine (reads_moreFields_next hseparator).bind ?_
  rw [if_pos rfl]
  refine (reads_advance levels '"' _).bind ?_
  refine (reads_stringTail levels name _).bind ?_
  simp only [hfind, habsent, Bool.false_eq_true, if_false]
  exact (reads_colon hbefore).bind ((hread hbehind hfield hstops hlevels).bind hrest)

/-- The fields of an object, up to its closing brace. -/
theorem reads_fromFields
    {first : Bool}
    {fuel : Nat}
    (hfills : Fills height shape record fields next)
    (hcomplete : shape.fields.foldlM completeField next = some filled)
    (hspells : SpellsFields first fields cs)
    (hfuel : fields.length < fuel)
    (hlevels : height < levels) :
    Reads (fromFields shape fuel first record) levels (cs ++ rest) filled ('\x7d' :: rest) := by
  induction hfills generalizing first fuel cs with
  | done record =>
      obtain ⟨fuel, rfl⟩ : ∃ less, fuel = less + 1 := ⟨fuel - 1, by omega⟩
      cases hspells with
      | close hblanks =>
          rw [List.append_assoc]
          unfold fromFields
          refine (reads_moreFields_close hblanks first).bind ?_
          exact reads_complete hcomplete levels _
  | field hfind habsent hread hrest ih =>
      obtain ⟨fuel, rfl⟩ : ∃ less, fuel = less + 1 := ⟨fuel - 1, by omega⟩
      rw [List.length_cons] at hfuel
      cases hspells with
      | next name hseparator hbefore hbehind hfield hfields =>
          have hloop := ih hcomplete hfields (Nat.lt_of_succ_lt_succ hfuel)
          simpa only [List.append_assoc, List.cons_append] using
            reads_fromFields_next hfind habsent hread hseparator hbefore hbehind hfield
              (hfields.stops rest) hlevels hloop

/-- A record is read from the fields that are written, the others being what they are where they are
absent. -/
theorem decodes_record
    (hfills : Fills height shape shape.empty fields next)
    (hcomplete : shape.fields.foldlM completeField next = some filled) :
    Decodes (height + 1) (Reader.record shape) (.object fields) filled := by
  intro blanks cs rest levels hblanks hspells _ hlevels
  obtain ⟨levels, rfl⟩ : ∃ less, levels = less + 1 := ⟨levels - 1, by omega⟩
  cases hspells with
  | @object _ text hfields =>
      have hfuel : fields.length < (text ++ rest).length + 1 := by
        have hlength := length_lt_of_spellsFields hfields
        rw [List.length_append]
        omega
      refine (reads_peekValue hblanks (by decide)).bind ?_
      refine (Reads.nested (by omega) ?_ '\x7b').placed
      refine (reads_budget levels (text ++ rest)).bind ?_
      exact (reads_fromFields hfills hcomplete hfields hfuel (by omega)).closing
        (reads_closeObject Blank.nil)

end Records

section Values

variable {levels fuel : Nat} {blanks cs rest : List Char}

/-- A text among values of any kind. -/
theorem reads_anyValue_string
    {s : String}
    (hblanks : Blank blanks)
    (hspells : Spells (.string s) cs)
    (fuel : Nat)
    (rest : List Char) :
    Reads (anyValue (fuel + 1)) levels (blanks ++ (cs ++ rest)) (.string s) rest := by
  cases hspells
  rw [renderString_append]
  unfold anyValue
  refine (reads_peekPart_cons hblanks (by decide)).bind ?_
  refine (reads_advance levels '"' _).bind ?_
  exact (reads_stringTail levels s rest).bind (Reads.pure _ levels rest)

theorem reads_anyFields_close
    (hblanks : Blank blanks)
    (fuel : Nat)
    (first : Bool) :
    Reads (anyFields (fuel + 1) first) levels (blanks ++ '\x7d' :: rest) [] ('\x7d' :: rest) := by
  unfold anyFields
  exact (reads_moreFields_close hblanks first).bind (Reads.pure [] levels ('\x7d' :: rest))

/-- One round of the loop over fields whose values may be of any kind. -/
theorem reads_anyFields_next
    {first : Bool}
    {name : String}
    {v : Json}
    {fields : List (String × Json)}
    {separator before text : List Char}
    (hseparator : Separates first separator)
    (hbefore : Blank before)
    (hvalue : Reads (anyValue fuel) levels text v cs)
    (hrest : Reads (anyFields fuel false) levels cs fields rest) :
    Reads (anyFields (fuel + 1) first) levels
      (separator ++ (renderString name ++ (before ++ ':' :: text))) ((name, v) :: fields) rest := by
  rw [renderString_append]
  unfold anyFields
  refine (reads_moreFields_next hseparator).bind ?_
  rw [if_pos rfl]
  refine (reads_advance levels '"' _).bind ?_
  refine (reads_stringTail levels name _).bind ?_
  refine (reads_colon hbefore).bind ?_
  exact hvalue.bind (hrest.bind (Reads.pure _ levels rest))

/-- An object whose only field is a text, among values of any kind. -/
theorem reads_anyValue_object
    {name s : String}
    (hblanks : Blank blanks)
    (hspells : Spells (.object [(name, .string s)]) cs)
    (hlevels : 1 < levels)
    (fuel : Nat)
    (rest : List Char) :
    Reads (anyValue (fuel + 3)) levels (blanks ++ (cs ++ rest)) (.object [(name, .string s)])
      rest := by
  obtain ⟨levels, rfl⟩ : ∃ less, levels = less + 1 := ⟨levels - 1, by omega⟩
  cases hspells with
  | object hfields =>
      cases hfields with
      | next name hseparator hbefore hbehind hfield hrest =>
          cases hrest with
          | close hlast =>
              have hfields : Reads (anyFields (fuel + 2) true) levels _ [(name, .string s)]
                  ('\x7d' :: rest) :=
                reads_anyFields_next hseparator hbefore
                  (reads_anyValue_string hbehind hfield fuel _)
                  (reads_anyFields_close hlast fuel false)
              have hclosing := hfields.closing (reads_closeObject Blank.nil)
              unfold anyValue
              simp only [List.append_assoc, List.cons_append, List.nil_append]
              refine (reads_peekPart_cons hblanks (by decide)).bind ?_
              refine Reads.nested (by omega) ?_ '\x7b'
              exact hclosing.bind (Reads.pure _ levels rest)

/-- A text is read as itself where any value may stand. -/
theorem decodes_value_string
    (s : String) :
    Decodes 0 value (.string s) (.string s) := by
  intro blanks cs rest levels hblanks hspells _ _
  exact (reads_budget levels _).bind (reads_anyValue_string hblanks hspells _ rest)

theorem decodes_value_object
    (name s : String) :
    Decodes 1 value (.object [(name, .string s)]) (.object [(name, .string s)]) := by
  intro blanks cs rest levels hblanks hspells _ hlevels
  obtain ⟨c, text, rfl, -⟩ := hspells.head
  obtain ⟨fuel, hfuel⟩ : ∃ fuel, 2 * ((blanks ++ (c :: text ++ rest)).length + 1) = fuel + 3 := by
    refine ⟨2 * (blanks ++ (c :: text ++ rest)).length - 1, ?_⟩
    simp only [List.length_append, List.length_cons]
    omega
  refine (reads_budget levels _).bind ?_
  rw [hfuel]
  exact reads_anyValue_object hblanks hspells hlevels fuel rest

end Values

end Json
end QueryBatch
