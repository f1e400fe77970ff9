import QueryBatch.Proofs.Batch.Pool

/-!
# How runs end

`Ends done cut` says of a run that it ends with an answer as `done` says, or is cut off in a world
as `cut` says, or never ends. The lemmas follow the ways to build work, from the last step
backwards: a run of two pieces ends so if the first one ends in a world from which the second one
does.
-/

namespace QueryBatch

variable {σ S T α β : Type}

section Defs

/-- A run ends with an answer as `done` says or is cut off as `cut` says, if it ends. -/
def Ends
    (done : α → World σ S → Prop)
    (cut : World σ S → Prop)
    (out : Ending α × World σ S) : Prop :=
  match out with
  | (.done a, world) => done a world
  | (.cut, world) => cut world
  | (.stuck, _) => True

/-- The error that a run answered, if it did. -/
def Ending.error? {ε : Type} : Ending (Except ε α) → Option ε
  | .done (.error e) => some e
  | .done (.ok _) | .cut | .stuck => none

end Defs

theorem done_of_error?
    {ε : Type}
    {ending : Ending (Except ε α)}
    {e : ε}
    (herror : ending.error? = some e) :
    ending = .done (.error e) := by
  rcases ending with (_ | _) | _ | _ <;> simp_all [Ending.error?]

theorem run_eq_of_done
    {out : Ending α × World σ S}
    {a : α}
    (hdone : out.1 = .done a) :
    out = (.done a, out.2) :=
  Prod.ext hdone rfl

section Rules

variable {done done' : α → World σ S → Prop} {cut cut' : World σ S → Prop}
variable {out : Ending α × World σ S} {cutoff : Option Nat} {world : World σ S}

@[simp]
theorem ends_done
    (a : α)
    (left : World σ S) :
    Ends done cut (.done a, left) = done a left :=
  rfl

@[simp]
theorem ends_cut
    (left : World σ S) :
    Ends done cut (.cut, left) = cut left :=
  rfl

@[simp]
theorem ends_stuck
    (left : World σ S) :
    Ends done cut (.stuck, left) = True :=
  rfl

theorem Ends.imp
    (hends : Ends done cut out)
    (hdone : ∀ a left, done a left → done' a left)
    (hcut : ∀ left, cut left → cut' left) :
    Ends done' cut' out := by
  rcases out with ⟨a | _ | _, left⟩
  · exact hdone a left hends
  · exact hcut left hends
  · trivial

/-- Two facts about how a run ends. -/
theorem Ends.and
    (hends : Ends done cut out)
    (hends' : Ends done' cut' out) :
    Ends (fun a left => done a left ∧ done' a left) (fun left => cut left ∧ cut' left) out := by
  rcases out with ⟨a | _ | _, left⟩
  · exact ⟨hends, hends'⟩
  · exact ⟨hends, hends'⟩
  · trivial

/-- What is known of all answers is known of the one that a run gave. -/
theorem Ends.of_done
    (hends : Ends done cut out)
    {a : α}
    {left : World σ S}
    (hout : out = (.done a, left)) :
    done a left := by
  subst hout
  exact hends

theorem ends_bind
    {w : Work σ S α}
    {next : α → Work σ S β}
    {result : β → World σ S → Prop}
    (hends : Ends (fun a left => Ends result cut ((next a).run cutoff left)) cut
      (w.run cutoff world)) :
    Ends result cut ((w >>= next).run cutoff world) := by
  rw [Work.run_bind]
  rcases hrun : w.run cutoff world with ⟨a | _ | _, left⟩ <;> rw [hrun] at hends <;> exact hends

/-- Work under a deadline is cut off like the work itself, or answers that the deadline passed. -/
theorem ends_until?
    {w : Work σ S α}
    {deadline : Option Nat}
    {phase : Phase}
    {result : Except Error α → World σ S → Prop}
    (hends : Ends (fun a left => result (.ok a) left)
      (fun left => result (.error (.deadlineExceeded phase)) left ∧ cut left)
      (w.run (earliest deadline cutoff) world)) :
    Ends result cut ((until? deadline phase w).run cutoff world) := by
  rw [run_until?]
  rcases hrun : w.run (earliest deadline cutoff) world with ⟨a | _ | _, left⟩
  · rw [hrun] at hends
    exact hends
  · rw [hrun] at hends
    cases deadline with
    | none => exact hends.2
    | some deadline =>
        cases cutoff with
        | none => exact hends.1
        | some limit =>
            by_cases hlimit : deadline ≤ limit
            · simpa [unanswered, hlimit] using hends.1
            · simpa [unanswered, hlimit] using hends.2
  · trivial

theorem ends_leaving
    {w : Work σ S α}
    {leave : World σ S → World σ S}
    (hends : Ends (fun a left => done a (leave left)) (fun left => cut (leave left))
      (w.run cutoff world)) :
    Ends done cut ((w.leaving leave).run cutoff world) := by
  rw [Work.run_leaving]
  rcases hrun : w.run cutoff world with ⟨a | _ | _, left⟩ <;> rw [hrun] at hends <;> exact hends

theorem ends_onCut
    {w : Work σ S α}
    {leave : World σ S → World σ S}
    (hends : Ends done (fun left => cut (leave left)) (w.run cutoff world)) :
    Ends done cut ((w.onCut leave).run cutoff world) := by
  unfold Work.run Work.onCut at *
  rcases hrun : w cutoff world with ⟨a | _ | _, left⟩ <;> rw [hrun] at hends <;> exact hends

theorem ends_inSpan
    {w : Work σ S α}
    {name : String}
    (hends : Ends (fun a left => done a { left with spans := world.spans })
      (fun left => cut { left with spans := world.spans })
      (w.run cutoff { world with spans := name :: world.spans })) :
    Ends done cut ((w.inSpan name).run cutoff world) := by
  rw [Work.run_inSpan]
  rcases hrun : w.run cutoff { world with spans := name :: world.spans } with ⟨a | _ | _, left⟩ <;>
    rw [hrun] at hends <;> exact hends

/-- Work on a store of its own ends as it does there, with that store in its answer. -/
theorem ends_withStore
    {init : T}
    {w : Work σ T α}
    {result : α × T → World σ S → Prop}
    (hends : Ends
      (fun a left => ∀ later : World σ S,
        later.driver = left.driver → later.openTx = left.openTx → result (a, left.store) later)
      (fun left => ∀ later : World σ S,
        later.driver = left.driver → later.openTx = left.openTx → cut later)
      (w.run cutoff
        { now := world.now, spans := world.spans, notes := world.notes, openTx := world.openTx,
          driver := world.driver, store := init })) :
    Ends result cut ((Work.withStore init w).run cutoff world) := by
  let own : World σ T :=
    { now := world.now, spans := world.spans, notes := world.notes, openTx := world.openTx,
      driver := world.driver, store := init }
  unfold Work.run Work.withStore at *
  rcases hown : w cutoff own with ⟨a | _ | _, left⟩
  · rw [hown] at hends
    exact hends _ rfl rfl
  · rw [hown] at hends
    exact hends _ rfl rfl
  · trivial

/-- Work on a part of the driver's state ends as it does on that part. -/
theorem ends_onPart
    {ν : Type}
    {get : σ → ν}
    {set : ν → σ → σ}
    {w : Work ν S α}
    (hends : Ends
      (fun a (left : World ν S) => ∀ later : World σ S,
        later.driver = set left.driver world.driver → later.openTx = left.openTx → done a later)
      (fun left => ∀ later : World σ S,
        later.driver = set left.driver world.driver → later.openTx = left.openTx → cut later)
      (w.run cutoff
        { now := world.now, spans := world.spans, notes := world.notes, openTx := world.openTx,
          driver := get world.driver, store := world.store })) :
    Ends done cut ((Work.onPart get set w).run cutoff world) := by
  let part : World ν S :=
    { now := world.now, spans := world.spans, notes := world.notes, openTx := world.openTx,
      driver := get world.driver, store := world.store }
  have hrun : (Work.onPart get set w).run cutoff world
      = ((w.run cutoff part).1,
          { now := (w.run cutoff part).2.now, spans := (w.run cutoff part).2.spans,
            notes := (w.run cutoff part).2.notes, openTx := (w.run cutoff part).2.openTx,
            driver := set (w.run cutoff part).2.driver world.driver,
            store := (w.run cutoff part).2.store }) := rfl
  rw [hrun]
  rcases hpart : w.run cutoff part with ⟨a | _ | _, left⟩
  · rw [hpart] at hends
    exact hends _ rfl rfl
  · rw [hpart] at hends
    exact hends _ rfl rfl
  · trivial

theorem ends_sleep
    {ms : Nat}
    {result : Unit → World σ S → Prop}
    (hdone : ∀ now, result () { world with now := now })
    (hcut : ∀ now, cut { world with now := now }) :
    Ends result cut ((Work.sleep ms).run cutoff world) := by
  rw [Work.run_sleep]
  split
  · exact hdone _
  · exact hcut _

theorem ends_never
    (hcut : ∀ now, cut { world with now := now }) :
    Ends done cut ((Work.never : Work σ S α).run cutoff world) := by
  rw [Work.run_never]
  cases cutoff with
  | none => trivial
  | some limit => exact hcut _

end Rules

end QueryBatch
