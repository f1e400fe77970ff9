import QueryBatch.Proofs.Batch.Deadlines

/-!
# What is reported of a failed statement

A batch that was sent fails at a statement exactly if its answers came and do not resolve there
(`sendBatch_resolves`). A call that began a transaction for its batch rolls back then, and reports
the failure as it is exactly if the rollback did not fail (`finish_keeps_cause_iff`). It sends
nothing while it finishes the transaction, and does not touch the store (`owner_ends`).
-/

namespace QueryBatch

variable {ρ S α : Type}

section Defs

/-- A transaction that something is sent in, and the log and the time then. -/
structure Start where
  tx : Nat
  log : List PoolEvent
  now : Nat

/-- Where a batch in a transaction is sent: in the transaction of its context if the handle is
open, and without one in a transaction that is begun for it, if that succeeds. -/
def start? (pool : AnyPool ρ) (ctx : Context) (cutoff : Option Nat)
    (world : World (List PoolEvent) S) : Option Start :=
  match ctx.tx with
  | some tx => if tx ∈ world.openTx then some ⟨tx, world.driver, world.now⟩ else none
  | none =>
      match pool.acknowledged .begin (earliest ctx.deadline cutoff) world.driver world.now with
      | some (time, .ok ()) => some ⟨world.newTx, (world.begun time).driver, time⟩
      | _ => none

/-- The statements that an event sends, and the transaction that they are sent in. -/
def sent? : PoolEvent → Option (Option Nat × List Statement)
  | .asked (.send statements) => some (none, statements)
  | .asked (.sendIn tx statements) => some (some tx, statements)
  | _ => none

/-- What is received by a limit for statements that are sent at a start. -/
def Start.received (start : Start) (pool : AnyPool ρ) (limit : Option Nat)
    (statements : List Statement) : Option (Nat × Answers ρ) :=
  pool.received (.sendIn start.tx statements) limit start.log start.now

/-- The answers to statements arrive at a time, one for each. -/
structure Start.Answered (start : Start) (pool : AnyPool ρ) (limit : Option Nat)
    (statements : List Statement) (time : Nat) (answers : List (Answer ρ)) : Prop where
  received : start.received pool limit statements = some (time, .ok answers)
  complete : answers.length = statements.length

/-- The log once statements that are sent at a start are answered. -/
def Start.answeredLog (start : Start) (statements : List Statement) : List PoolEvent :=
  start.log ++ [.asked (.sendIn start.tx statements), .answered (.sendIn start.tx statements) none]

/-- A rollback that is asked for at a time does not fail: it is agreed to by the limit of rollbacks,
or there is nothing to roll back any more. -/
def RollbackSucceeds (pool : AnyPool ρ) (deadline cutoff : Option Nat) (tx : Nat)
    (log : List PoolEvent) (now : Nat) : Prop :=
  ∃ later answer,
    pool.acknowledged (.rollback tx)
      (earliest (deadline.map fun deadline => max deadline (now + 1000)) cutoff) log now
        = some (later, answer) ∧
    (answer = .ok () ∨ answer = .error .txClosed)

end Defs

section Sending

variable (pool : AnyPool ρ) (ctx : Context)

/-- A batch that was sent fails at a statement exactly if its answers came and resolve so. -/
theorem sendBatch_resolves
    {batch : Batch ρ S}
    (hfilled : batch.entries ≠ [])
    (toCall : List Statement → PoolCall)
    (cutoff : Option Nat)
    (world : World (List PoolEvent) S) :
    let received := pool.received (toCall batch.statements) (earliest ctx.deadline cutoff)
      world.driver world.now
    let out := (Driver.sendBatch ctx batch fun statements =>
      pool.askRows (toCall statements)).run cutoff world
    (∀ index source, out.1 = .done (.error (.statement index source)) ↔
      ∃ time answers, received = some (time, .ok answers) ∧
        batch.resolve answers = .error (.statement index source)) ∧
    (out.1 = .done (.ok ()) → ∃ answers change, batch.resolve answers = .ok change ∧
      out.2.store = change world.store) := by
  have hrun := run_sendBatch pool ctx hfilled toCall cutoff world
  dsimp only at hrun ⊢
  generalize pool.received (toCall batch.statements) (earliest ctx.deadline cutoff) world.driver
    world.now = received at hrun ⊢
  generalize (Driver.sendBatch ctx batch fun statements =>
    pool.askRows (toCall statements)).run cutoff world = out at hrun ⊢
  obtain ⟨-, hends⟩ := hrun
  rcases received with _ | ⟨time, e | answers⟩
  · rw [hends.1]
    refine ⟨fun index source => ⟨fun h => ?_, by simp⟩, fun h => ?_⟩
    · exact absurd (eq_of_unanswered h) (by simp)
    · exact absurd h (unanswered_ne_ok ctx.deadline cutoff .send ())
  · rw [hends.1]
    simp
  · cases hresolve : batch.resolve answers with
    | error e =>
        simp only [hresolve] at hends
        simp [hends.1, hresolve]
    | ok change =>
        simp only [hresolve] at hends
        exact ⟨by simp [hends.1, hresolve], fun _ => ⟨answers, change, hresolve, hends.2⟩⟩

/-- A call sends what it asks for, and its answer sends nothing. -/
theorem sent_events
    (call : PoolCall)
    (received : Option (Nat × Except DriverError α)) :
    (call.events received).filterMap sent? = (sent? (.asked call)).toList := by
  have hanswered : ∀ failure, sent? (.answered call failure) = none := fun _ => rfl
  unfold PoolCall.events
  cases received <;> cases hsent : sent? (.asked call) <;> simp [hsent, hanswered]

theorem sent_exchanged
    {call : PoolCall}
    {gained : List PoolEvent}
    (hexchanged : Exchanged call gained) :
    gained.filterMap sent? = (sent? (.asked call)).toList := by
  cases hexchanged with
  | unanswered => exact sent_events call (none : Option (Nat × Except DriverError Unit))
  | answered failure =>
      have hanswered : sent? (.answered call failure) = none := rfl
      cases hsent : sent? (.asked call) <;> simp [hsent, hanswered]

end Sending

section Owners

variable {pool : AnyPool ρ} {ctx : Context} {cutoff : Option Nat} {tx : Nat}

theorem rollbackReport_eq_iff
    {cause : Error}
    {answer : Except DriverError Unit} :
    rollbackReport cause answer = cause ↔ answer = .ok () ∨ answer = .error .txClosed := by
  have hlarger : ∀ why, Error.rollback cause why ≠ cause := by
    intro why heq
    have hsize := congrArg sizeOf heq
    simp at hsize
    omega
  rcases answer with (_ | _ | _) | ⟨⟩ <;> simp [rollbackReport, hlarger]

/-- The failure of an owner stays what it is exactly if its rollback did not fail. -/
theorem finish_keeps_cause_iff
    {left : World (List PoolEvent) S}
    (hopen : tx ∈ left.openTx)
    (cause : Error) :
    ((pool.finish ctx tx (.error cause : Except Error α)).run cutoff left).1
        = .done (.error cause) ↔
      RollbackSucceeds pool ctx.deadline cutoff tx left.driver left.now := by
  obtain ⟨after, hrun, -⟩ := run_finish_error_asked α pool ctx hopen cause cutoff
  rw [hrun]
  unfold RollbackSucceeds
  cases pool.acknowledged (.rollback tx)
    (earliest (ctx.deadline.map fun deadline => max deadline (left.now + 1000)) cutoff) left.driver
    left.now with
  | none =>
      -- a rollback that was given up failed, and so did one that was cut off with its owner
      dsimp only [Option.elim_none]
      rcases hending : unanswered _ cutoff .rollback with (e | answer) | _ | _
      · simp [rollbackAnswer, rollbackReport_eq_iff]
      · exact absurd hending (unanswered_ne_ok _ cutoff .rollback answer)
      · simp
      · simp
  | some reply =>
      obtain ⟨time, answer⟩ := reply
      simp [rollbackAnswer, rollbackReport_eq_iff]

variable (pool) (ctx) in
/-- What an owner makes of the end of its work: nothing more is sent, the store stays as it is, and
a failure at a statement stays what it is exactly if the rollback does not fail. -/
theorem owner_ends
    {body : Work (List PoolEvent) S (Except Error Unit)}
    {begun : World (List PoolEvent) S}
    (hopen : tx ∈ (body.run cutoff begun).2.openTx) :
    let ran := body.run cutoff begun
    let left := (body >>= pool.finish ctx tx).run cutoff begun
    (∃ last, (pool.driver.dropHandle tx left.2).driver = ran.2.driver ++ last ∧
      last.filterMap sent? = []) ∧
    (pool.driver.dropHandle tx left.2).store = ran.2.store ∧
    (left.1 = .done (.ok ()) → ran.1 = .done (.ok ())) ∧
    (∀ index source, left.1 = .done (.error (.statement index source)) ↔
      ran.1 = .done (.error (.statement index source)) ∧
        RollbackSucceeds pool ctx.deadline cutoff tx ran.2.driver ran.2.now) ∧
    ∀ cause result, ran.1 = .done (.error cause) → left.1 = .done result →
      ∃ e, result = .error e ∧ (e = cause ∨ ∃ why, e = .rollback cause why) := by
  dsimp only
  rw [Work.run_bind]
  generalize body.run cutoff begun = ran at hopen ⊢
  rcases ran with ⟨(cause | ⟨⟩) | _ | _, left⟩
  · obtain ⟨⟨last, hlast, hdriver⟩, hleft, hstore, hnone, hreports⟩ :=
      run_finish_error pool ctx hopen cause
    rw [Ending.andThen_done, dropHandle_closed pool tx hleft]
    refine ⟨⟨last, hdriver, sent_exchanged hlast⟩, hstore, fun h => absurd h (hnone ()), ?_, ?_⟩
    · intro index source
      constructor
      · intro hfailed
        rcases hreports _ hfailed with rfl | ⟨why, hwhy⟩
        · exact ⟨rfl, (finish_keeps_cause_iff hopen _).1 hfailed⟩
        · cases hwhy
      · rintro ⟨hcause, hundone⟩
        cases hcause
        exact (finish_keeps_cause_iff hopen _).2 hundone
    · intro other result hsame hresult
      cases hsame
      rcases result with e | a
      · exact ⟨e, rfl, hreports e hresult⟩
      · exact absurd hresult (hnone a)
  · obtain ⟨hreport, hdriver, hleft, hstore⟩ := run_finish_ok pool ctx hopen
    rw [Ending.andThen_done, dropHandle_closed pool tx hleft]
    refine ⟨⟨_, hdriver, sent_events _ _⟩, hstore, fun _ => rfl, fun index source => ?_, ?_⟩
    · refine ⟨fun hfailed => ?_, fun h => by cases h.1⟩
      rw [hreport] at hfailed
      obtain hlate | ⟨why, hwhy⟩ := (commit_reported ctx.deadline cutoff _).2 _ hfailed
      · cases hlate
      · cases hwhy
    · intro cause result hcause
      cases hcause
  -- work that was left without a result has its transaction let go
  all_goals
    have hdropped := dropHandle_eq pool tx left
    rw [if_pos hopen] at hdropped
    simp only [Ending.andThen_cut, Ending.andThen_stuck, hdropped]
    exact ⟨⟨[.dropped tx], rfl, rfl⟩, rfl, by simp, by simp, by simp⟩

end Owners
end QueryBatch
