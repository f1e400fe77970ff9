import Mathlib
import QueryBatch.Json.Record

/-!
# Readers that take a piece of a text

`Reads r levels cs a rest` says of a reader that on the text `cs` it answers `a` and stops before
`rest`, wherever in a file the text stands. Positions matter for faults alone, so what is read does
not depend on them. Readers that run one after the other take one piece after the other
(`Reads.bind`), and every reader that is made of others has a law of this kind.
-/

namespace QueryBatch
namespace Json
namespace Reader

/-- With so many levels of nesting left, a reader answers `a` for a text and leaves its rest. -/
def Reads (r : Reader α) (levels : Nat) (cs : List Char) (a : α) (rest : List Char) : Prop :=
  ∀ position, ∃ after, r.runFrom ⟨cs, position, levels⟩ = (.ok a, ⟨rest, after, levels⟩)

section Composition

variable {r : Reader α} {levels : Nat} {cs middle rest : List Char} {a : α} {b : β}

theorem runFrom_bind
    (r : Reader α)
    (f : α → Reader β)
    (c : Cursor) :
    (r >>= f).runFrom c
      = match r.runFrom c with
        | (.ok a, c) => (f a).runFrom c
        | (.error e, c) => (.error e, c) := by
  unfold runFrom
  rw [ExceptT.run_bind, StateT.run_bind]
  cases StateT.run (ExceptT.run r) c with
  | mk x c => cases x <;> rfl

theorem runFrom_tryCatch
    (r : Reader α)
    (handle : Fault → Reader α)
    (c : Cursor) :
    (tryCatch r handle).runFrom c
      = match r.runFrom c with
        | (.ok a, c) => (.ok a, c)
        | (.error e, c) => (handle e).runFrom c := by
  unfold runFrom
  rw [ExceptT.run_tryCatch, StateT.run_bind]
  cases StateT.run (ExceptT.run r) c with
  | mk x c => cases x <;> rfl

theorem runFrom_get
    (c : Cursor) :
    runFrom get c = (.ok c, c) :=
  rfl

theorem runFrom_set
    (c d : Cursor) :
    runFrom (set d) c = (.ok ⟨⟩, d) :=
  rfl

theorem runFrom_modify
    (f : Cursor → Cursor)
    (c : Cursor) :
    runFrom (modify f) c = (.ok ⟨⟩, f c) :=
  rfl

theorem Reads.pure
    (a : α)
    (levels : Nat)
    (cs : List Char) :
    Reads (pure a) levels cs a cs :=
  fun position => ⟨position, rfl⟩

theorem Reads.bind
    {f : α → Reader β}
    (hfirst : Reads r levels cs a middle)
    (hthen : Reads (f a) levels middle b rest) :
    Reads (r >>= f) levels cs b rest := by
  intro position
  obtain ⟨between, hfirst⟩ := hfirst position
  obtain ⟨after, hthen⟩ := hthen between
  refine ⟨after, ?_⟩
  rw [runFrom_bind, hfirst]
  exact hthen

theorem Reads.map
    (f : α → β)
    (h : Reads r levels cs a rest) :
    Reads (f <$> r) levels cs (f a) rest := by
  rw [map_eq_pure_bind]
  exact h.bind (Reads.pure (f a) levels rest)

theorem Reads.tryCatch
    (h : Reads r levels cs a rest)
    (handle : Fault → Reader α) :
    Reads (tryCatch r handle) levels cs a rest := by
  intro position
  obtain ⟨after, h⟩ := h position
  refine ⟨after, ?_⟩
  rw [runFrom_tryCatch, h]

end Composition

section Steps

variable {r : Reader α} {levels : Nat} {c : Char} {cs middle rest : List Char} {a : α}

theorem reads_peek
    (levels : Nat)
    (cs : List Char) :
    Reads peek levels cs cs.head? cs :=
  fun position => ⟨position, rfl⟩

theorem reads_budget
    (levels : Nat)
    (cs : List Char) :
    Reads budget levels cs (cs.length + 1) cs :=
  fun position => ⟨position, rfl⟩

theorem reads_advance
    (levels : Nat)
    (c : Char)
    (cs : List Char) :
    Reads advance levels (c :: cs) () cs :=
  fun position => ⟨position.after c c.utf8Size, rfl⟩

/-- The letters of a word. -/
theorem reads_identifier
    (levels : Nat)
    (word rest : List Char) :
    Reads (identifier word) levels (word ++ rest) () rest := by
  induction word with
  | nil => exact Reads.pure () levels rest
  | cons c word ih =>
      unfold identifier
      refine (reads_peek levels (c :: (word ++ rest))).bind ?_
      simp only [List.head?_cons, if_true]
      exact (reads_advance levels c (word ++ rest)).bind ih

theorem Reads.placed
    (h : Reads r levels cs a rest) :
    Reads (placed r) levels cs a rest :=
  h.tryCatch _

/-- One level deeper, past the opening bracket. -/
theorem Reads.nested
    (hlevels : 1 ≤ levels)
    (h : Reads r levels cs a rest)
    (bracket : Char) :
    Reads (nested r) (levels + 1) (bracket :: cs) a rest := by
  intro position
  obtain ⟨after, h⟩ := h (position.after bracket bracket.utf8Size)
  refine ⟨after, ?_⟩
  have hfew : ¬ levels + 1 ≤ 1 := by omega
  have hadvance : advance.runFrom ⟨bracket :: cs, position, levels⟩
      = (.ok (), ⟨cs, position.after bracket bracket.utf8Size, levels⟩) := rfl
  unfold Reader.nested
  simp only [runFrom_bind, runFrom_get, runFrom_set, if_neg hfew, Nat.add_sub_cancel, hadvance, h,
    runFrom_modify]
  rfl

/-- What is in brackets, and the bracket that closes them. -/
theorem Reads.closing
    {close : Reader Unit}
    (h : Reads r levels cs a middle)
    (hclose : Reads close levels middle () rest) :
    Reads (closing r close) levels cs a rest := by
  unfold Reader.closing
  refine ((h.map some).tryCatch _).bind ?_
  exact hclose.bind (Reads.pure a levels rest)

end Steps

/-- Nothing but the characters that may stand between the parts of a text. -/
def Blank (cs : List Char) : Prop := ∀ c ∈ cs, isSpace c = true

section Parts

variable {levels : Nat} {blanks cs rest : List Char} {c : Char}

theorem Blank.nil :
    Blank [] := by
  simp [Blank]

/-- The spaces ahead are passed over, and no more. -/
theorem skipSpaces_append
    (hblanks : Blank blanks)
    (hhead : ∀ c ∈ cs.head?, isSpace c = false)
    (position : Position) :
    ∃ after, skipSpaces ⟨blanks ++ cs, position, levels⟩ = ⟨cs, after, levels⟩ := by
  unfold skipSpaces
  induction blanks generalizing position with
  | nil =>
      refine ⟨position, ?_⟩
      cases cs with
      | nil => rfl
      | cons c cs =>
          have hc : isSpace c = false := hhead c rfl
          simp [skipSpaces.go, hc]
  | cons b blanks ih =>
      have hb : isSpace b = true := hblanks b List.mem_cons_self
      have hrest := ih (fun c hc => hblanks c (List.mem_cons_of_mem _ hc))
        (position.after b b.utf8Size)
      simp only [List.cons_append, skipSpaces.go, hb, if_true]
      exact hrest

theorem reads_peekPart
    (hblanks : Blank blanks)
    (hhead : ∀ c ∈ cs.head?, isSpace c = false) :
    Reads peekPart levels (blanks ++ cs) cs.head? cs := by
  intro position
  obtain ⟨after, hskip⟩ := skipSpaces_append hblanks hhead position
  refine ⟨after, ?_⟩
  unfold peekPart
  rw [runFrom_bind, runFrom_modify, hskip]
  rfl

theorem reads_peekPart_cons
    (hblanks : Blank blanks)
    (hc : isSpace c = false) :
    Reads peekPart levels (blanks ++ c :: rest) (some c) (c :: rest) :=
  reads_peekPart hblanks fun d hd => by rwa [Option.some.inj hd] at hc

theorem reads_peekValue
    (hblanks : Blank blanks)
    (hc : isSpace c = false) :
    Reads peekValue levels (blanks ++ c :: rest) c (c :: rest) :=
  (reads_peekPart_cons hblanks hc).bind (Reads.pure c levels (c :: rest))

theorem reads_colon
    (hblanks : Blank blanks) :
    Reads colon levels (blanks ++ ':' :: rest) () rest :=
  (reads_peekPart_cons hblanks (by decide)).bind (reads_advance levels ':' rest)

theorem reads_closeObject
    (hblanks : Blank blanks) :
    Reads closeObject levels (blanks ++ '\x7d' :: rest) () rest :=
  (reads_peekPart_cons hblanks (by decide)).bind (reads_advance levels '\x7d' rest)

theorem reads_finish
    (hblanks : Blank blanks) :
    Reads finish levels blanks () [] := by
  have hnothing : Reads peekPart levels (blanks ++ []) none [] :=
    reads_peekPart hblanks fun c hc => by cases hc
  rw [List.append_nil] at hnothing
  exact hnothing.bind (Reads.pure () levels [])

end Parts

end Reader
end Json
end QueryBatch
