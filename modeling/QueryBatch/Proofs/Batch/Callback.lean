import QueryBatch.Proofs.Batch.Contract

/-!
# Callbacks that queue statements

A callback looks at the time and at the caller's cells, changes cells, queues queries and sees
whether each was accepted, in any order and number, and returns a result of its own.

`Callback.run` is a callback as the code runs it. `Callback.outcome` says what is left when it
returns: its result, the accepted calls in order, and the cells.
-/

namespace QueryBatch

inductive Callback (ρ : Type) {K : Type} (V : K → Type) : Type 1
  | finish (result : Except Error Unit)
  | look (next : Nat → Cells V → Callback ρ V)
  | change (f : Cells V → Cells V) (next : Callback ρ V)
  | queue (call : QueueCall ρ V) (next : Except Error Unit → Callback ρ V)

/-- A call that was accepted, and the statement that it queued. -/
structure Queued (ρ : Type) {K : Type} (V : K → Type) : Type 1 where
  call : QueueCall ρ V
  statement : Statement

/-- What is left when a callback returns. -/
structure Callback.Outcome (ρ : Type) {K : Type} (V : K → Type) : Type 1 where
  result : Except Error Unit
  queued : List (Queued ρ V)
  cells : Cells V

variable {σ ρ : Type} {K : Type} {V : K → Type} [DecidableEq K]

section Defs

namespace Callback

def run : Callback ρ V → Queueing σ ρ (Cells V) Unit
  | finish result => Queueing.ofExcept result
  | look next => do
      let (_, world) ← get
      (next world.now world.store).run
  | change f next => do
      Queueing.changeWorld fun world => { world with store := f world.store }
      next.run
  | queue call next => do
      let result ← ExceptT.lift (ExceptT.run call.run)
      (next result).run

/-- What a callback leaves that starts at a time with cells. -/
def outcome (now : Nat) : Callback ρ V → Cells V → Outcome ρ V
  | finish result, cells => ⟨result, [], cells⟩
  | look next, cells => (next now cells).outcome now cells
  | change f next, cells => next.outcome now (f cells)
  | queue call next, cells =>
      match call.statement with
      | .error e => (next (.error e)).outcome now cells
      | .ok statement =>
          let rest := (next (.ok ())).outcome now cells
          { rest with queued := ⟨call, statement⟩ :: rest.queued }

end Callback

def Callback.Outcome.statements (outcome : Callback.Outcome ρ V) : List Statement :=
  outcome.queued.map Queued.statement

/-- An entry holds the statement of an accepted call and makes of answers what the call asks
for. -/
def Queued.Served (queued : Queued ρ V) (entry : Entry ρ (Cells V)) : Prop :=
  entry.statement = queued.statement ∧ queued.call.Served entry

end Defs

namespace Callback

/-- A callback leaves what its outcome says, whatever was in the batch before. -/
theorem runOn_run
    (callback : Callback ρ V)
    (batch : Batch ρ (Cells V))
    (hopen : batch.sent = false)
    (world : World σ (Cells V)) :
    ∃ entries notes,
      List.Forall₂ Queued.Served (callback.outcome world.now world.store).queued entries ∧
      callback.run.runOn (batch, world)
        = ((callback.outcome world.now world.store).result,
            { batch with entries := batch.entries ++ entries },
            { world with
              notes := notes, store := (callback.outcome world.now world.store).cells }) := by
  -- each accepted call leaves a longer batch to the rest of the callback
  induction callback generalizing batch world with
  | finish result =>
      refine ⟨[], world.notes, .nil, ?_⟩
      simp [run, outcome]
  | look next ih =>
      exact ih world.now world.store batch hopen world
  | change f next ih =>
      exact ih batch hopen { world with store := f world.store }
  | queue call next ih =>
      have hrun : (queue call next).run.runOn (batch, world)
          = ((next (call.run.runOn (batch, world)).1).run).runOn
              (call.run.runOn (batch, world)).2 := rfl
      rw [hrun]
      rcases call.run_eq hopen world with
        ⟨e, hstatement, hcall⟩ | ⟨entry, notes, hstatement, hserved, hcall⟩
      · rw [hcall]
        simp only [outcome, hstatement]
        exact ih (.error e) batch hopen world
      · rw [hcall]
        obtain ⟨entries, later, hentries, hnext⟩ :=
          ih (.ok ()) { batch with entries := batch.entries ++ [entry] } hopen
            { world with notes := notes }
        refine ⟨entry :: entries, later, ?_, ?_⟩
        · simp only [outcome, hstatement]
          exact .cons ⟨rfl, hserved⟩ hentries
        · rw [hnext]
          simp [outcome, hstatement]

/-- Filling a new batch with a callback takes no time and reaches no pool. -/
theorem run_fill
    (callback : Callback ρ V)
    (cutoff : Option Nat)
    (world : World σ (Cells V)) :
    ∃ entries notes,
      List.Forall₂ Queued.Served (callback.outcome world.now world.store).queued entries ∧
      (callback.run.fill).run cutoff world
        = (.done ((fun _ => ⟨entries, true⟩) <$> (callback.outcome world.now world.store).result),
            { world with
              notes := notes, store := (callback.outcome world.now world.store).cells }) := by
  obtain ⟨entries, notes, hentries, hrun⟩ := callback.runOn_run Batch.empty rfl world
  refine ⟨entries, notes, hentries, ?_⟩
  rw [Queueing.run_fill, hrun]
  cases (callback.outcome world.now world.store).result <;> rfl

end Callback
end QueryBatch
