import Mathlib
import QueryBatch.Proofs.Json.Reads

/-!
# What a reader may answer

`Yields r P` says of a reader that whatever it answers has the property `P`, on any text. A reader
that fails yields anything, and readers that run one after the other hand on what is known of their
answers (`Yields.bind`).

A record is filled field by field, in the order of a text. If every way to fill a field keeps an
invariant and takes no other field away, then a record that was read has the invariant, and it has
all of its fields (`yields_record`).
-/

namespace QueryBatch
namespace Json
namespace Reader

/-- Whatever the reader answers has the property. -/
def Yields (r : Reader α) (P : α → Prop) : Prop :=
  ∀ ⦃c a after⦄, r.runFrom c = (.ok a, after) → P a

section Composition

variable {r : Reader α} {P Q : α → Prop} {R : β → Prop}

theorem Yields.trivial
    (r : Reader α) :
    Yields r fun _ => True :=
  fun _ _ _ _ => True.intro

theorem Yields.mono
    (h : Yields r P)
    (himp : ∀ a, P a → Q a) :
    Yields r Q :=
  fun _ a _ hrun => himp a (h hrun)

theorem Yields.pure
    {a : α}
    (ha : P a) :
    Yields (pure a) P := by
  intro c b after hrun
  cases hrun
  exact ha

theorem Yields.throw
    (fault : Fault)
    (P : α → Prop) :
    Yields (throw fault) P := by
  intro c a after hrun
  cases hrun

theorem Yields.bind
    {f : α → Reader β}
    (h : Yields r P)
    (hthen : ∀ a, P a → Yields (f a) R) :
    Yields (r >>= f) R := by
  intro c b after hrun
  rw [runFrom_bind] at hrun
  cases hfirst : r.runFrom c with
  | mk answer between =>
      cases answer with
      | ok a =>
          rw [hfirst] at hrun
          exact hthen a (h hfirst) hrun
      | error fault =>
          rw [hfirst] at hrun
          cases hrun

/-- A step of which nothing needs to be known. -/
theorem Yields.after
    {f : α → Reader β}
    (hthen : ∀ a, Yields (f a) R) :
    Yields (r >>= f) R :=
  (Yields.trivial r).bind fun a _ => hthen a

theorem Yields.tryCatch
    {handle : Fault → Reader α}
    (h : Yields r P)
    (hhandle : ∀ fault, Yields (handle fault) P) :
    Yields (tryCatch r handle) P := by
  intro c a after hrun
  rw [runFrom_tryCatch] at hrun
  cases hfirst : r.runFrom c with
  | mk answer between =>
      cases answer with
      | ok b =>
          rw [hfirst] at hrun
          cases hrun
          exact h hfirst
      | error fault =>
          rw [hfirst] at hrun
          exact hhandle fault hrun

theorem Yields.map
    {f : α → β}
    (h : Yields r fun a => R (f a)) :
    Yields (f <$> r) R := by
  rw [map_eq_pure_bind]
  exact h.bind fun _ ha => Yields.pure ha

end Composition

section Steps

variable {r : Reader α} {P : α → Prop}

theorem yields_failHere
    (cause : Cause)
    (P : α → Prop) :
    Yields (failHere cause) P :=
  Yields.after fun _ => Yields.throw _ P

theorem yields_failAhead
    (cause : Cause)
    (P : α → Prop) :
    Yields (failAhead cause) P :=
  Yields.after fun _ => Yields.throw _ P

theorem yields_unexpected
    (expected : String)
    (P : α → Prop) :
    Yields (unexpected expected) P := by
  have hfail (found : Found) : Yields (failHere (.invalidType found expected)) P :=
    yields_failHere _ P
  refine Yields.after fun c => ?_
  -- Whatever is found ahead, the last step is the refusal.
  split
  · exact Yields.after fun _ => Yields.after fun _ => Yields.after hfail
  · exact Yields.after fun _ => Yields.after fun _ => Yields.after hfail
  · exact Yields.after fun _ => Yields.after fun _ => Yields.after hfail
  · exact Yields.after fun _ => Yields.after fun _ => Yields.after hfail
  · exact Yields.after hfail
  · exact Yields.after hfail
  · split
    · exact Yields.after fun _ => Yields.after hfail
    · exact Yields.after hfail
  · exact Yields.after hfail

theorem Yields.placed
    (h : Yields r P) :
    Yields (placed r) P := by
  refine h.tryCatch fun fault => ?_
  split
  · exact Yields.throw fault P
  · exact yields_failHere fault.cause P

theorem Yields.nested
    (h : Yields r P) :
    Yields (nested r) P := by
  unfold Reader.nested
  refine Yields.after fun c => Yields.after fun _ => ?_
  split
  · exact yields_failAhead .tooDeep P
  · exact Yields.after fun _ => h.bind fun a ha => Yields.after fun _ => Yields.pure ha

theorem Yields.closing
    (h : Yields r P)
    (close : Reader Unit) :
    Yields (closing r close) P := by
  have hsome : Yields (some <$> r) fun answer => ∀ a ∈ answer, P a :=
    Yields.map (h.mono fun a ha b hb => Option.some.inj hb ▸ ha)
  unfold Reader.closing
  refine (hsome.tryCatch fun fault => ?_).bind fun answer hanswer => ?_
  · exact Yields.after fun _ => Yields.throw fault _
  · cases answer with
    | some a => exact Yields.after fun _ => Yields.pure (hanswer a rfl)
    | none => exact yields_failHere .expectedValue P

/-- A text with a meaning of its own is read as something that some text means. -/
theorem yields_stringAs
    {meaning : String → Except String α}
    (hmeaning : ∀ s a, meaning s = .ok a → P a)
    (expected : String) :
    Yields (stringAs expected meaning) P := by
  unfold stringAs
  refine Yields.after fun c => ?_
  split
  · refine Yields.after fun _ => Yields.after fun s => ?_
    split
    · next a heq => exact Yields.pure (hmeaning s a heq)
    · exact yields_failHere _ P
  · exact yields_unexpected expected P

theorem Yields.onText
    {text : String}
    {a : α}
    (h : Yields r P)
    (hread : r.onText text = .ok a) :
    P a := by
  have hwhole : Yields (do let a ← r; finish; return a) P :=
    h.bind fun a ha => Yields.after fun _ => Yields.pure ha
  exact hwhole (Prod.ext hread rfl)

end Steps

section Records

variable {σ : Type} {shape : Shape σ} {Inv : σ → Prop} {record : σ}

/-- How a step may fill a field of a record: the invariant is kept, the field is there, and so is
every field that was there. -/
structure Shape.FillsIn (shape : Shape σ) (Inv : σ → Prop) (field : Field σ) (record next : σ) :
    Prop where
  kept : Inv next
  present : field.present next = true
  still : ∀ other ∈ shape.fields, other.present record = true → other.present next = true

/-- Every way to fill a field of a record keeps the invariant. -/
structure Shape.Keeps (shape : Shape σ) (Inv : σ → Prop) : Prop where
  start : Inv shape.empty
  read : ∀ field ∈ shape.fields, ∀ record, Inv record →
    Yields (field.read record) (shape.FillsIn Inv field record)
  absent : ∀ field ∈ shape.fields, ∀ record, Inv record → ∀ next ∈ field.absent record,
    shape.FillsIn Inv field record next
  omitted : ∀ field ∈ shape.fields, ∀ record, Inv record → ∀ next ∈ field.omitted record,
    shape.FillsIn Inv field record next

/-- A record that is filled from another one: it has the invariant, the fields that were there, and
those that were to be filled. -/
structure Shape.Completed (shape : Shape σ) (Inv : σ → Prop) (fields : List (Field σ))
    (record filled : σ) : Prop where
  kept : Inv filled
  still : ∀ other ∈ shape.fields, other.present record = true → other.present filled = true
  present : ∀ field ∈ fields, field.present filled = true

theorem Shape.Completed.nil
    (hrecord : Inv record) :
    shape.Completed Inv [] record record where
  kept := hrecord
  still := fun _ _ hpresent => hpresent
  present := by simp

theorem Shape.FillsIn.completed
    {field : Field σ}
    {fields : List (Field σ)}
    {next filled : σ}
    (hfield : field ∈ shape.fields)
    (hfills : shape.FillsIn Inv field record next)
    (hrest : shape.Completed Inv fields next filled) :
    shape.Completed Inv (field :: fields) record filled where
  kept := hrest.kept
  still := fun other hother hpresent =>
    hrest.still other hother (hfills.still other hother hpresent)
  present := List.forall_mem_cons.2 ⟨hrest.still field hfield hfills.present, hrest.present⟩

/-- The fields that an object lacks are filled in. -/
theorem yields_complete
    (hkeeps : shape.Keeps Inv)
    {fields : List (Field σ)}
    (hfields : ∀ field ∈ fields, field ∈ shape.fields)
    (hrecord : Inv record) :
    Yields (fields.foldlM (fun record field =>
        if field.present record then pure record
        else
          match field.absent record with
          | some record => pure record
          | none => throw ⟨.missingField field.name, none⟩) record : Reader σ)
      (shape.Completed Inv fields record) := by
  induction fields generalizing record with
  | nil => exact Yields.pure (.nil hrecord)
  | cons field fields ih =>
      obtain ⟨hfield, hrest⟩ := List.forall_mem_cons.1 hfields
      have hstep : Yields (if field.present record then pure record
          else
            match field.absent record with
            | some record => pure record
            | none => throw ⟨.missingField field.name, none⟩ : Reader σ)
          (shape.FillsIn Inv field record) := by
        split
        · next hpresent => exact Yields.pure ⟨hrecord, hpresent, fun _ _ h => h⟩
        · split
          · next next heq => exact Yields.pure (hkeeps.absent field hfield record hrecord next heq)
          · exact Yields.throw _ _
      rw [List.foldlM_cons]
      refine hstep.bind fun next hnext => ?_
      exact (ih hrest hnext.kept).mono fun filled hfilled => hnext.completed hfield hfilled

theorem yields_fromItems
    (hkeeps : shape.Keeps Inv)
    {fields : List (Field σ)}
    (hfields : ∀ field ∈ fields, field ∈ shape.fields)
    (hrecord : Inv record)
    (position : Nat)
    (first : Bool) :
    Yields (fromItems shape position fields first record)
      (shape.Completed Inv fields record) := by
  induction fields generalizing record position first with
  | nil => exact Yields.pure (.nil hrecord)
  | cons field fields ih =>
      obtain ⟨hfield, hrest⟩ := List.forall_mem_cons.1 hfields
      have hthen {next : σ} (hnext : shape.FillsIn Inv field record next) (first : Bool) :
          Yields (fromItems shape (position + 1) fields first next)
            (shape.Completed Inv (field :: fields) record) :=
        (ih hrest hnext.kept _ first).mono fun filled hfilled => hnext.completed hfield hfilled
      unfold fromItems
      refine Yields.after fun more => ?_
      split
      · exact (hkeeps.read field hfield record hrecord).bind fun next hnext => hthen hnext false
      · split
        · next next heq => exact hthen (hkeeps.omitted field hfield record hrecord next heq) first
        · exact Yields.throw _ _

theorem yields_fromFields
    (hkeeps : shape.Keeps Inv)
    (hrecord : Inv record)
    (fuel : Nat)
    (first : Bool) :
    Yields (fromFields shape fuel first record) fun filled =>
      Inv filled ∧ ∀ field ∈ shape.fields, field.present filled = true := by
  induction fuel generalizing record first with
  | zero => exact yields_failHere .endInObject _
  | succ fuel ih =>
      unfold fromFields
      refine Yields.after fun more => ?_
      split
      · refine Yields.after fun _ => Yields.after fun name => ?_
        split
        · next field hfind =>
            have hfield := List.mem_of_find?_eq_some hfind
            split
            · exact Yields.throw _ _
            · refine Yields.after fun _ => ?_
              exact (hkeeps.read field hfield record hrecord).bind fun next hnext =>
                ih hnext.kept false
        · exact Yields.after fun _ => Yields.after fun _ => ih hrecord false
      · exact (yields_complete hkeeps (fun _ hfield => hfield) hrecord).mono fun filled hfilled =>
          ⟨hfilled.kept, hfilled.present⟩

/-- A record that was read has the invariant, and it has all of its fields. -/
theorem yields_record
    (hkeeps : shape.Keeps Inv) :
    Yields (Reader.record shape) fun filled =>
      Inv filled ∧ ∀ field ∈ shape.fields, field.present filled = true := by
  unfold Reader.record
  refine Yields.after fun c => ?_
  split
  · refine ((Yields.closing ?_ closeList).nested).placed
    exact (yields_fromItems hkeeps (fun _ hfield => hfield) hkeeps.start 0 true).mono
      fun filled hfilled => ⟨hfilled.kept, hfilled.present⟩
  · refine (Yields.nested (Yields.after fun fuel => ?_)).placed
    exact (yields_fromFields hkeeps hkeeps.start fuel true).closing closeObject
  · exact yields_unexpected shape.title _

end Records

end Reader
end Json
end QueryBatch
