import QueryBatch.Proofs.Batch.Deadlines

/-!
# Transactions inside transactions

A call that finds a transaction in its context leaves the ownership where it is. So a body inside
any number of further calls of `inTransaction` runs exactly as inside one (`nested_succ`), and a
batch that would own its transaction hands the ownership to the outermost call around it.

In the second case commit and rollback move out of the span of the batch, and the line that
announces a rollback is written outside of it. Nothing else can tell the two runs apart, because
what an owner does to finish a transaction does not depend on the log (`ignoresLog_finish`).
-/

namespace QueryBatch

variable {σ ρ S α β : Type}

section Defs

/-- Work inside so many calls of `inTransaction`, each of which hands its context on and does
nothing else. -/
def Driver.nested
    (d : Driver σ ρ)
    (work : Context → Work σ S (Except Error α)) :
    Nat → Context → Work σ S (Except Error α)
  | 0, ctx => work ctx
  | depth + 1, ctx => d.inTransaction ctx (d.nested work depth)

/-- Two worlds are the same but for the program's own log. -/
structure World.Agrees (left right : World σ S) : Prop where
  now : left.now = right.now
  openTx : left.openTx = right.openTx
  driver : left.driver = right.driver
  store : left.store = right.store

/-- Work that makes the same of worlds that are the same but for the log. -/
def Work.IgnoresLog (w : Work σ S α) : Prop :=
  ∀ cutoff left right, World.Agrees left right →
    (w.run cutoff left).1 = (w.run cutoff right).1 ∧
      World.Agrees (w.run cutoff left).2 (w.run cutoff right).2

/-- What a batch in a transaction does once it has one. -/
def Driver.queuedBody
    (d : Driver σ ρ)
    (queue : Context → Queueing σ ρ S Unit)
    (ctx : Context)
    (tx : Nat) :
    Work σ S (Except Error Unit) := do
  match ← (queue ctx).fill with
  | .error e => return .error e
  | .ok batch => Driver.sendBatch ctx batch (d.sendThrough tx)

/-- Whether an error joins a failure with that of the rollback after it. -/
def Error.isJoined : Error → Bool
  | .rollback _ _ => true
  | _ => false

/-- A callback can fail with an error. -/
def FailsWith (queue : Context → Queueing σ ρ S Unit) (e : Error) : Prop :=
  ∃ ctx world, ((queue ctx).runOn (Batch.empty, world)).1 = .error e

/-- An error is a failure with at most one failed rollback joined to it. The failure itself has
none, unless it came from the callback so. -/
def JoinedOnce (queue : Context → Queueing σ ρ S Unit) (e : Error) : Prop :=
  ∃ cause, (cause.isJoined = false ∨ FailsWith queue cause) ∧
    (e = cause ∨ ∃ why, e = .rollback cause why)

end Defs

namespace World.Agrees

variable {left right : World σ S}

theorem refl
    (world : World σ S) :
    Agrees world world :=
  ⟨rfl, rfl, rfl, rfl⟩

/-- Worlds that agree differ in the log and the spans alone. -/
theorem eq_with
    (hagrees : Agrees left right) :
    left = { right with notes := left.notes, spans := left.spans } := by
  obtain ⟨hnow, hopen, hdriver, hstore⟩ := hagrees
  cases left
  cases right
  simp_all

end World.Agrees

namespace Work

theorem ignoresLog_pure
    (a : α) :
    (pure a : Work σ S α).IgnoresLog :=
  fun _ _ _ hagrees => ⟨rfl, hagrees⟩

theorem ignoresLog_change
    {f : World σ S → World σ S}
    (hf : ∀ left right, World.Agrees left right → World.Agrees (f left) (f right)) :
    (change f).IgnoresLog :=
  fun _ left right hagrees => ⟨rfl, hf left right hagrees⟩

theorem ignoresLog_bind
    {w : Work σ S α}
    {next : α → Work σ S β}
    (hw : w.IgnoresLog)
    (hnext : ∀ a, (next a).IgnoresLog) :
    (w >>= next).IgnoresLog := by
  intro cutoff left right hagrees
  obtain ⟨hending, hworld⟩ := hw cutoff left right hagrees
  rw [run_bind, run_bind]
  generalize w.run cutoff left = outLeft at hending hworld ⊢
  generalize w.run cutoff right = outRight at hending hworld ⊢
  obtain ⟨ending, afterLeft⟩ := outLeft
  obtain ⟨_, afterRight⟩ := outRight
  cases hending
  cases ending with
  | done a => exact hnext a cutoff afterLeft afterRight hworld
  | cut => exact ⟨rfl, hworld⟩
  | stuck => exact ⟨rfl, hworld⟩

end Work

section Owners

variable {pool : AnyPool ρ} {ctx : Context} {tx : Nat}

theorem ignoresLog_until?
    {w : Work σ S α}
    (hw : w.IgnoresLog)
    (deadline : Option Nat)
    (phase : Phase) :
    (until? deadline phase w).IgnoresLog := by
  intro cutoff left right hagrees
  obtain ⟨hending, hworld⟩ := hw (earliest deadline cutoff) left right hagrees
  rw [run_until?, run_until?, hending]
  exact ⟨rfl, hworld⟩

/-- A call that finishes a transaction looks at the handle, and the pool at its own log and the
time. -/
theorem ignoresLog_finishing
    {call : PoolCall}
    {w : Work (List PoolEvent) S (Except DriverError Unit)}
    (hrun : ∀ cutoff world, w.run cutoff world
      = if tx ∈ world.openTx then (pool.askPlain call).run cutoff (world.closed tx)
        else (.done (.error .txClosed), world.closed tx)) :
    w.IgnoresLog := by
  intro cutoff left right hagrees
  rw [hagrees.eq_with, hrun, hrun]
  by_cases hopen : tx ∈ right.openTx
  · rw [if_pos hopen, if_pos hopen, run_askPlain, run_askPlain]
    have hsame : pool.acknowledged call cutoff (right.closed tx).driver (right.closed tx).now
        = pool.acknowledged call cutoff
            (World.closed { right with notes := left.notes, spans := left.spans } tx).driver
            (World.closed { right with notes := left.notes, spans := left.spans } tx).now := rfl
    rw [← hsame]
    cases pool.acknowledged call cutoff (right.closed tx).driver (right.closed tx).now with
    | none => exact ⟨rfl, rfl, rfl, rfl, rfl⟩
    | some reply => exact ⟨rfl, rfl, rfl, rfl, rfl⟩
  · rw [if_neg hopen, if_neg hopen]
    exact ⟨rfl, rfl, rfl, rfl, rfl⟩

theorem ignoresLog_commitOwned :
    (pool.driver.commitOwned ctx tx : Work (List PoolEvent) S _).IgnoresLog := by
  unfold Driver.commitOwned
  apply Work.ignoresLog_bind
  · exact ignoresLog_until? (ignoresLog_finishing fun _ _ => run_commitThrough pool tx) _ _
  · rintro (e | e | ⟨⟩)
    · exact Work.ignoresLog_pure _
    · cases e <;> exact Work.ignoresLog_pure _
    · exact Work.ignoresLog_pure _

/-- The line about a rollback is all that an owner writes. -/
theorem ignoresLog_rollbackOwned
    (cause : Error) :
    (pool.driver.rollbackOwned ctx tx cause : Work (List PoolEvent) S _).IgnoresLog := by
  unfold Driver.rollbackOwned
  apply Work.ignoresLog_bind
  · exact Work.ignoresLog_change fun left right hagrees =>
      ⟨hagrees.now, hagrees.openTx, hagrees.driver, hagrees.store⟩
  · intro _
    apply Work.ignoresLog_bind
    · intro cutoff left right hagrees
      have hthrough : (pool.driver.rollbackThrough tx : Work (List PoolEvent) S _).IgnoresLog :=
        ignoresLog_finishing fun _ _ => run_rollbackThrough pool tx
      unfold withinGrace
      simp only [Work.run_bind, Work.run_now, Ending.andThen_done, hagrees.now]
      exact ignoresLog_until? hthrough _ .rollback cutoff left right hagrees
    · rintro (timeout | e | ⟨⟩)
      · exact Work.ignoresLog_pure _
      · cases e <;> exact Work.ignoresLog_pure _
      · exact Work.ignoresLog_pure _

/-- Finishing a transaction does not depend on the log. -/
theorem ignoresLog_finish
    (result : Except Error α) :
    (pool.finish ctx tx result : Work (List PoolEvent) S _).IgnoresLog := by
  cases result with
  | ok a =>
      apply Work.ignoresLog_bind ignoresLog_commitOwned
      rintro (e | ⟨⟩) <;> exact Work.ignoresLog_pure _
  | error cause =>
      exact Work.ignoresLog_bind (ignoresLog_rollbackOwned cause) fun _ => Work.ignoresLog_pure _

variable (pool ctx tx)

/-- To finish a transaction outside of the span of its work, or inside, is the same but for the
log. -/
theorem agrees_finish_outside
    (name : String)
    (body : Work (List PoolEvent) S (Except Error α))
    (cutoff : Option Nat)
    (world : World (List PoolEvent) S) :
    let outside := (Work.inSpan name body >>= pool.finish ctx tx).run cutoff world
    let inside := (body >>= pool.finish ctx tx).run cutoff
      { world with spans := name :: world.spans }
    outside.1 = inside.1 ∧ World.Agrees outside.2 inside.2 := by
  dsimp only
  rw [Work.run_bind, Work.run_bind, Work.run_inSpan]
  generalize body.run cutoff { world with spans := name :: world.spans } = ran
  obtain ⟨ending, left⟩ := ran
  have hleft : World.Agrees { left with spans := world.spans } left := ⟨rfl, rfl, rfl, rfl⟩
  cases ending with
  | done result => exact ignoresLog_finish result cutoff _ _ hleft
  | cut => exact ⟨rfl, hleft⟩
  | stuck => exact ⟨rfl, hleft⟩

theorem agrees_dropHandle
    {left right : World (List PoolEvent) S}
    (hagrees : World.Agrees left right) :
    World.Agrees (pool.driver.dropHandle tx left) (pool.driver.dropHandle tx right) := by
  obtain ⟨hnow, hopen, hdriver, hstore⟩ := hagrees
  rw [dropHandle_eq, dropHandle_eq, hopen]
  split
  · exact ⟨hnow, by simp [World.closed, hopen], by simp [hdriver], hstore⟩
  · exact ⟨hnow, hopen, hdriver, hstore⟩

end Owners

section Nesting

variable (d : Driver σ ρ) (work : Context → Work σ S (Except Error α))

/-- With a transaction in the context further calls are not noticed at all. -/
theorem nested_of_some
    {ctx : Context}
    {tx : Nat}
    (htx : ctx.tx = some tx)
    (depth : Nat) :
    d.nested work depth ctx = work ctx := by
  induction depth with
  | zero => rfl
  | succ depth ih =>
      have hinner : d.nested work (depth + 1) ctx = d.nested work depth ctx := by
        simp only [Driver.nested, Driver.inTransaction, Driver.transact, htx]
      rw [hinner, ih]

/-- A body inside any number of calls runs as inside one. -/
theorem nested_succ
    (depth : Nat)
    (ctx : Context) :
    d.nested work (depth + 1) ctx = d.inTransaction ctx work := by
  cases htx : ctx.tx with
  | some tx =>
      rw [nested_of_some d work htx]
      simp only [Driver.inTransaction, Driver.transact, htx]
  | none =>
      -- the body only ever sees contexts that carry the new transaction
      have hinner : ∀ tx, d.nested work depth (ctx.derive tx) = work (ctx.derive tx) :=
        fun tx => nested_of_some d work rfl depth
      simp only [Driver.nested, Driver.inTransaction, Driver.transact, Driver.withTransaction, htx,
        hinner]

theorem runBatchInTransaction_eq_queued
    (queue : Context → Queueing σ ρ S Unit)
    (ctx : Context) :
    d.runBatchInTransaction ctx queue
      = Work.inSpan "run_batch_in_transaction" (d.transact ctx (d.queuedBody queue)) :=
  rfl

end Nesting

section Failures

variable {cutoff : Option Nat}

/-- No failed rollback is joined to what a call to the driver is given up for. -/
theorem isJoined_of_until?
    {world : World σ S}
    {deadline : Option Nat}
    {phase : Phase}
    {w : Work σ S α}
    {e : Error}
    (hfailed : ((until? deadline phase w).run cutoff world).1 = .done (.error e)) :
    e.isJoined = false := by
  rw [run_until?] at hfailed
  generalize (w.run (earliest deadline cutoff) world).1 = ending at hfailed
  cases ending with
  | done a => cases hfailed
  | stuck => cases hfailed
  | cut =>
      cases deadline with
      | none => cases hfailed
      | some deadline =>
          rw [eq_of_unanswered hfailed]
          rfl

/-- Work that fails once its first part has answered fails in the rest. -/
theorem failed_of_bind
    {world : World σ S}
    {w : Work σ S α}
    {next : α → Work σ S (Except Error β)}
    {e : Error}
    (hfailed : ((w >>= next).run cutoff world).1 = .done (.error e)) :
    ∃ a left, w.run cutoff world = (.done a, left) ∧
      ((next a).run cutoff left).1 = .done (.error e) := by
  rw [Work.run_bind] at hfailed
  rcases hran : w.run cutoff world with ⟨a | _ | _, left⟩
  · rw [hran] at hfailed
    exact ⟨a, left, rfl, hfailed⟩
  · rw [hran] at hfailed
    cases hfailed
  · rw [hran] at hfailed
    cases hfailed

/-- An answer that is not as expected is told by its statement. -/
theorem statement_of_check
    {entries : List (Entry ρ S)}
    {answers : List (Answer ρ)}
    {index : Nat}
    {e : Error}
    (hchecked : Batch.check index entries answers = .error e) :
    ∃ position source, e = .statement position source := by
  induction entries generalizing index answers with
  | nil => cases hchecked
  | cons entry entries ih =>
      cases answers with
      | nil => cases hchecked
      | cons answer answers =>
          cases hresolve : entry.resolve answer with
          | error source =>
              simp only [Batch.check, hresolve] at hchecked
              cases hchecked
              exact ⟨index, source, rfl⟩
          | ok change =>
              cases hrest : Batch.check (index + 1) entries answers with
              | error source =>
                  simp only [Batch.check, hresolve, hrest] at hchecked
                  cases hchecked
                  exact ih hrest
              | ok rest => simp [Batch.check, hresolve, hrest] at hchecked

theorem isJoined_of_resolve
    {batch : Batch ρ S}
    {answers : List (Answer ρ)}
    {e : Error}
    (hresolved : batch.resolve answers = .error e) :
    e.isJoined = false := by
  unfold Batch.resolve at hresolved
  split at hresolved
  · obtain ⟨_, _, rfl⟩ := statement_of_check hresolved
    rfl
  · cases hresolved
    rfl

/-- No failed rollback is joined to what sending a batch fails with. -/
theorem isJoined_of_sendBatch
    {world : World σ S}
    {ctx : Context}
    {batch : Batch ρ S}
    {send : List Statement → Work σ S (Answers ρ)}
    {e : Error}
    (hfailed : ((Driver.sendBatch ctx batch send).run cutoff world).1 = .done (.error e)) :
    e.isJoined = false := by
  unfold Driver.sendBatch at hfailed
  split at hfailed
  · cases hfailed
  · obtain ⟨_, noted, -, hfailed⟩ := failed_of_bind hfailed
    obtain ⟨answer, left, hran, hfailed⟩ := failed_of_bind hfailed
    rcases answer with late | refused | answers
    · cases hfailed
      exact isJoined_of_until? (congrArg Prod.fst hran)
    · cases hfailed
      rfl
    · cases hresolve : batch.resolve answers with
      | error source =>
          simp only [hresolve] at hfailed
          cases hfailed
          exact isJoined_of_resolve hresolve
      | ok change =>
          simp only [hresolve] at hfailed
          cases hfailed

/-- The body of a batch fails with an error of the callback, or with one that no failed rollback is
joined to. -/
theorem queuedBody_fails
    {d : Driver σ ρ}
    {queue : Context → Queueing σ ρ S Unit}
    {ctx : Context}
    {tx : Nat}
    {world : World σ S}
    {e : Error}
    (hfailed : ((d.queuedBody queue ctx tx).run cutoff world).1 = .done (.error e)) :
    e.isJoined = false ∨ FailsWith queue e := by
  unfold Driver.queuedBody at hfailed
  obtain ⟨filled, left, hfill, hfailed⟩ := failed_of_bind hfailed
  cases filled with
  | ok batch => exact .inl (isJoined_of_sendBatch hfailed)
  | error refused =>
      cases hfailed
      refine .inr ⟨ctx, world, ?_⟩
      rw [Queueing.run_fill] at hfill
      rcases hqueue : (queue ctx).runOn (Batch.empty, world) with ⟨refused | ⟨⟩, batch, after⟩
      · rw [hqueue] at hfill
        cases hfill
        rfl
      · rw [hqueue] at hfill
        cases hfill

theorem commitOwned_fails
    {d : Driver σ ρ}
    {ctx : Context}
    {tx : Nat}
    {world : World σ S}
    {e : Error}
    (hfailed : ((d.commitOwned ctx tx).run cutoff world).1 = .done (.error e)) :
    e.isJoined = false := by
  unfold Driver.commitOwned at hfailed
  obtain ⟨answer, left, hran, hfailed⟩ := failed_of_bind hfailed
  rcases answer with late | refused | ⟨⟩
  · cases hfailed
    exact isJoined_of_until? (congrArg Prod.fst hran)
  · cases refused <;> cases hfailed <;> rfl
  · cases hfailed

/-- An owner fails with the failure of its work, to which it may join that of the rollback, or with
one of its own. -/
theorem finish_fails
    {pool : AnyPool ρ}
    {ctx : Context}
    {tx : Nat}
    {result : Except Error α}
    {world : World (List PoolEvent) S}
    {e : Error}
    (hfailed : ((pool.finish ctx tx result).run cutoff world).1 = .done (.error e)) :
    e.isJoined = false ∨
      ∃ cause, result = .error cause ∧ (e = cause ∨ ∃ why, e = .rollback cause why) := by
  cases result with
  | ok a =>
      obtain ⟨answer, left, hran, hfailed⟩ := failed_of_bind hfailed
      cases answer with
      | ok done => cases hfailed
      | error refused =>
          cases hfailed
          exact .inl (commitOwned_fails (congrArg Prod.fst hran))
  | error cause =>
      refine .inr ⟨cause, rfl, ?_⟩
      obtain ⟨reported, left, hran, hfailed⟩ := failed_of_bind hfailed
      cases hfailed
      exact rollbackOwned_reports pool ctx tx cause (congrArg Prod.fst hran)

end Failures

section Batches

variable (pool : AnyPool ρ) (queue : Context → Queueing (List PoolEvent) ρ S Unit)

/-- Who owns the transaction of a batch makes no difference but for the log. -/
theorem agrees_inTransaction
    (ctx : Context)
    (cutoff : Option Nat)
    (world : World (List PoolEvent) S) :
    let inside := (pool.driver.inTransaction ctx fun ctx =>
      pool.driver.runBatchInTransaction ctx queue).run cutoff world
    let alone := (pool.driver.runBatchInTransaction ctx queue).run cutoff world
    inside.1 = alone.1 ∧ World.Agrees inside.2 alone.2 := by
  let body := pool.driver.queuedBody queue
  cases htx : ctx.tx with
  | some tx =>
      have hsame : (pool.driver.inTransaction ctx fun ctx =>
          pool.driver.runBatchInTransaction ctx queue)
          = pool.driver.runBatchInTransaction ctx queue := by
        simp only [Driver.inTransaction, Driver.transact, htx]
      rw [hsame]
      exact ⟨rfl, .refl _⟩
  | none =>
      -- the batch inside finds a transaction in its context, so its span holds its body alone
      have hnested : ∀ tx, pool.driver.runBatchInTransaction (ctx.derive tx) queue
          = Work.inSpan "run_batch_in_transaction" (body (ctx.derive tx) tx) := by
        intro tx
        rw [runBatchInTransaction_eq_queued, transact_nested pool (ctx.derive tx) rfl]
      let entered : World (List PoolEvent) S :=
        { world with spans := "run_batch_in_transaction" :: world.spans }
      rw [runBatchInTransaction_eq_queued, run_transact pool ctx htx, Work.run_inSpan,
        run_withTransaction pool ctx htx]
      unfold Driver.inTransaction
      rw [run_transact pool ctx htx, run_withTransaction pool ctx htx]
      have hbegin : pool.acknowledged .begin (earliest ctx.deadline cutoff) entered.driver
          entered.now
          = pool.acknowledged .begin (earliest ctx.deadline cutoff) world.driver world.now := rfl
      rw [hbegin]
      rcases pool.acknowledged .begin (earliest ctx.deadline cutoff) world.driver world.now
        with _ | ⟨time, e | ⟨⟩⟩
      · exact ⟨rfl, rfl, rfl, rfl, rfl⟩
      · exact ⟨rfl, rfl, rfl, rfl, rfl⟩
      · have hnew : entered.newTx = world.newTx := rfl
        dsimp only
        rw [hnested, hnew]
        obtain ⟨hending, hworld⟩ := agrees_finish_outside pool (ctx.derive world.newTx) world.newTx
          "run_batch_in_transaction" (body (ctx.derive world.newTx) world.newTx) cutoff
          (world.begun time)
        have hdropped := agrees_dropHandle pool world.newTx hworld
        exact ⟨hending, hdropped.now, hdropped.openTx, hdropped.driver, hdropped.store⟩

/-- However a batch in a transaction fails, at most one failed rollback is joined to why. -/
theorem joinedOnce_of_runBatchInTransaction
    {ctx : Context}
    {cutoff : Option Nat}
    {world : World (List PoolEvent) S}
    {e : Error}
    (hfailed : ((pool.driver.runBatchInTransaction ctx queue).run cutoff world).1
      = .done (.error e)) :
    JoinedOnce queue e := by
  rw [runBatchInTransaction_eq_queued, Work.run_inSpan] at hfailed
  cases htx : ctx.tx with
  | some tx =>
      rw [transact_nested pool ctx htx] at hfailed
      exact ⟨e, queuedBody_fails hfailed, .inl rfl⟩
  | none =>
      rw [run_transact pool ctx htx, run_withTransaction pool ctx htx] at hfailed
      split at hfailed
      · cases eq_of_unanswered hfailed
        exact ⟨_, .inl rfl, .inl rfl⟩
      · cases hfailed
        exact ⟨_, .inl rfl, .inl rfl⟩
      · obtain ⟨result, left, hran, hfinish⟩ := failed_of_bind hfailed
        obtain hown | ⟨cause, rfl, hreported⟩ := finish_fails hfinish
        · exact ⟨e, .inl hown, .inl rfl⟩
        · exact ⟨cause, queuedBody_fails (congrArg Prod.fst hran), hreported⟩

/-- Calls of `inTransaction` around a batch in a transaction change nothing but the log: what
happens at the pool and in which order, the store, the result and the time of the return are those
of the batch alone, and at most one failed rollback is joined to a failure. Calls around any other
body in a transaction change nothing at all. -/
theorem nesting_is_transparent
    (ctx : Context)
    (cutoff : Option Nat)
    (world : World (List PoolEvent) S)
    (depth : Nat) :
    let alone := (pool.driver.runBatchInTransaction ctx queue).run cutoff world
    let inside := (pool.driver.nested (fun ctx =>
      pool.driver.runBatchInTransaction ctx queue) depth ctx).run cutoff world
    inside.2.driver = alone.2.driver ∧ inside.2.store = alone.2.store ∧ inside.1 = alone.1 ∧
      inside.2.now = alone.2.now ∧
      (∀ e, inside.1 = .done (.error e) → JoinedOnce queue e) ∧
      ∀ {α : Type} (body : Context → Work (List PoolEvent) S (Except Error α)),
        pool.driver.inTransaction ctx (pool.driver.nested body depth)
          = pool.driver.inTransaction ctx body := by
  intro alone inside
  have hsame : inside.1 = alone.1 ∧ World.Agrees inside.2 alone.2 := by
    cases depth with
    | zero => exact ⟨rfl, .refl _⟩
    | succ depth =>
        have hone := agrees_inTransaction pool queue ctx cutoff world
        change (Work.run (pool.driver.nested _ (depth + 1) ctx) cutoff world).1 = _ ∧
          World.Agrees (Work.run (pool.driver.nested _ (depth + 1) ctx) cutoff world).2 _
        rw [nested_succ]
        exact hone
  obtain ⟨hending, hworld⟩ := hsame
  refine ⟨hworld.driver, hworld.store, hending, hworld.now, ?_, ?_⟩
  · intro e hfailed
    rw [hending] at hfailed
    exact joinedOnce_of_runBatchInTransaction pool queue hfailed
  · intro α body
    exact nested_succ pool.driver body depth ctx

end Batches
end QueryBatch
