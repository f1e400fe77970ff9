import Mathlib
import QueryBatch.Clock

/-!
# Running work

Equations for a run of each way to build work. A run of two pieces in a row goes on with the
second one exactly if the first one ends with an answer, from the world that it leaves.

Many facts relate the worlds before and after a run, whatever the cut-off and however the run ends.
`Work.Keeps` states such a fact for a relation that every run may compose, and the lemmas about it
follow the ways to build work.
-/

namespace QueryBatch

variable {σ S α β : Type}

/-- Go on with the answer of a run, in the world that it left. -/
def Ending.andThen
    (out : Ending α × World σ S)
    (next : α → World σ S → Ending β × World σ S) :
    Ending β × World σ S :=
  match out with
  | (.done a, world) => next a world
  | (.cut, world) => (.cut, world)
  | (.stuck, world) => (.stuck, world)

namespace Ending

variable {next : α → World σ S → Ending β × World σ S}

@[simp]
theorem andThen_done
    (a : α)
    (world : World σ S) :
    andThen (.done a, world) next = next a world :=
  rfl

@[simp]
theorem andThen_cut
    (world : World σ S) :
    andThen (.cut, world) next = (.cut, world) :=
  rfl

@[simp]
theorem andThen_stuck
    (world : World σ S) :
    andThen (.stuck, world) next = (.stuck, world) :=
  rfl

end Ending

namespace Work

variable (cutoff : Option Nat) (world : World σ S)

@[simp]
theorem run_pure
    (a : α) :
    run (pure a : Work σ S α) cutoff world = (.done a, world) :=
  rfl

@[simp]
theorem run_bind
    (w : Work σ S α)
    (next : α → Work σ S β) :
    run (w >>= next) cutoff world
      = Ending.andThen (run w cutoff world) fun a left => run (next a) cutoff left :=
  rfl

@[simp]
theorem run_map
    (f : α → β)
    (w : Work σ S α) :
    run (f <$> w) cutoff world
      = Ending.andThen (run w cutoff world) fun a left => (.done (f a), left) :=
  rfl

@[simp]
theorem run_look
    (f : World σ S → α) :
    run (look f) cutoff world = (.done (f world), world) :=
  rfl

@[simp]
theorem run_now :
    run now cutoff world = (.done world.now, world) :=
  rfl

@[simp]
theorem run_driver :
    run driver cutoff world = (.done world.driver, world) :=
  rfl

@[simp]
theorem run_change
    (f : World σ S → World σ S) :
    run (change f) cutoff world = (.done (), f world) :=
  rfl

@[simp]
theorem run_changeDriver
    (f : σ → σ) :
    run (changeDriver f) cutoff world = (.done (), { world with driver := f world.driver }) :=
  rfl

@[simp]
theorem run_changeStore
    (f : S → S) :
    run (changeStore f) cutoff world = (.done (), { world with store := f world.store }) :=
  rfl

@[simp]
theorem run_step
    (f : World σ S → α × World σ S) :
    run (step f) cutoff world = (.done (f world).1, (f world).2) :=
  rfl

theorem run_giveUpAt
    (deadline : Nat)
    (w : Work σ S α) :
    run (giveUpAt deadline w) cutoff world
      = match run w (some (earlier deadline cutoff)) world with
        | (.done a, left) => (.done (some a), left)
        | (.stuck, left) => (.stuck, left)
        | (.cut, left) =>
            match cutoff with
            | none => (.done none, left)
            | some limit => if deadline ≤ limit then (.done none, left) else (.cut, left) :=
  rfl

@[simp]
theorem run_leaving
    (w : Work σ S α)
    (leave : World σ S → World σ S) :
    run (leaving w leave) cutoff world
      = ((run w cutoff world).1, leave (run w cutoff world).2) :=
  rfl

@[simp]
theorem run_inSpan
    (name : String)
    (w : Work σ S α) :
    run (inSpan name w) cutoff world
      = ((run w cutoff { world with spans := name :: world.spans }).1,
        { (run w cutoff { world with spans := name :: world.spans }).2 with
          spans := world.spans }) :=
  rfl

end Work

/-- A relation between the worlds before and after a run that composes, and that holds if neither
the driver nor the open handles change. -/
structure Frame (R : World σ S → World σ S → Prop) : Prop where
  quiet : ∀ {before after : World σ S},
    after.driver = before.driver → after.openTx = before.openTx → R before after
  trans : ∀ {before between after : World σ S}, R before between → R between after → R before after

namespace Work

/-- Every run of work relates the worlds before and after it. -/
def Keeps (R : World σ S → World σ S → Prop) (w : Work σ S α) : Prop :=
  ∀ cutoff world, R world (w.run cutoff world).2

section Keeping

variable {R : World σ S → World σ S → Prop}

theorem keeps_pure
    (hframe : Frame R)
    (a : α) :
    (pure a : Work σ S α).Keeps R :=
  fun _ _ => hframe.quiet rfl rfl

theorem keeps_look
    (hframe : Frame R)
    (f : World σ S → α) :
    (look f).Keeps R :=
  fun _ _ => hframe.quiet rfl rfl

theorem keeps_bind
    (hframe : Frame R)
    {w : Work σ S α}
    {next : α → Work σ S β}
    (hw : w.Keeps R)
    (hnext : ∀ a, (next a).Keeps R) :
    (w >>= next).Keeps R := by
  intro cutoff world
  rw [run_bind]
  have hfirst := hw cutoff world
  rcases hrun : w.run cutoff world with ⟨a | _ | _, left⟩
  · rw [hrun] at hfirst
    exact hframe.trans hfirst (hnext a cutoff left)
  · rw [hrun] at hfirst
    exact hfirst
  · rw [hrun] at hfirst
    exact hfirst

/-- What work keeps is kept if all that follows is to answer. -/
theorem keeps_bind_still
    {w : Work σ S α}
    {next : α → Work σ S β}
    (hw : w.Keeps R)
    (hnext : ∀ a cutoff world, ((next a).run cutoff world).2 = world) :
    (w >>= next).Keeps R := by
  intro cutoff world
  rw [run_bind]
  have hfirst := hw cutoff world
  rcases hrun : w.run cutoff world with ⟨a | _ | _, left⟩
  · rw [hrun] at hfirst
    rw [Ending.andThen_done, hnext]
    exact hfirst
  · rw [hrun] at hfirst
    exact hfirst
  · rw [hrun] at hfirst
    exact hfirst

theorem keeps_inSpan
    (hframe : Frame R)
    {w : Work σ S α}
    (hw : w.Keeps R)
    (name : String) :
    (inSpan name w).Keeps R := by
  intro cutoff world
  rw [run_inSpan]
  have hentered : R world { world with spans := name :: world.spans } := hframe.quiet rfl rfl
  exact hframe.trans (hframe.trans hentered (hw cutoff _)) (hframe.quiet rfl rfl)

theorem keeps_giveUpAt
    {w : Work σ S α}
    (hw : w.Keeps R)
    (deadline : Nat) :
    (giveUpAt deadline w).Keeps R := by
  intro cutoff world
  have hleft := hw (some (earlier deadline cutoff)) world
  rw [run_giveUpAt]
  rcases hrun : w.run (some (earlier deadline cutoff)) world with ⟨a | _ | _, left⟩
  · rw [hrun] at hleft
    exact hleft
  · rw [hrun] at hleft
    cases cutoff with
    | none => exact hleft
    | some limit =>
        by_cases hlimit : deadline ≤ limit
        · simpa [hlimit] using hleft
        · simpa [hlimit] using hleft
  · rw [hrun] at hleft
    exact hleft

end Keeping
end Work
end QueryBatch
