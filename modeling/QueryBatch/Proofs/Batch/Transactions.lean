import QueryBatch.Batch.Run
import QueryBatch.Proofs.Batch.Pool

/-!
# Transactions and their owners

What each operation on a transaction does to a pool: sending, committing and rolling back through a
handle, beginning a transaction, and finishing it as its owner. A handle lets one finishing call
through, and what is asked of a closed handle reaches no pool.
-/

namespace QueryBatch

variable {ρ S α : Type}
variable {cutoff : Option Nat} {world : World (List PoolEvent) S}

/-- The world after the handle of a transaction is closed. -/
def World.closed (world : World (List PoolEvent) S) (tx : Nat) : World (List PoolEvent) S :=
  { world with openTx := world.openTx.filter (· ≠ tx) }

/-- The number of a transaction that is begun in a world. -/
def World.newTx (world : World (List PoolEvent) S) : Nat :=
  freshTx (world.driver ++ [.asked .begin, .answered .begin none])

/-- The world after a transaction was begun at a time. -/
def World.begun (world : World (List PoolEvent) S) (time : Nat) : World (List PoolEvent) S :=
  { world with now := time, openTx := world.newTx :: world.openTx }.gain
    [.asked .begin, .answered .begin none, .began world.newTx]

/-- What an owner reports of the answer to its commit. -/
def commitReport : Except DriverError Unit → Except Error Unit
  | .ok () => .ok ()
  | .error .txClosed => .ok ()
  | .error e => .error (.commit e)

/-- Finish a transaction as its owner, after work with a result. -/
def AnyPool.finish (pool : AnyPool ρ) (ctx : Context) (tx : Nat) :
    Except Error α → Work (List PoolEvent) S (Except Error α)
  | .ok a => do
      match ← pool.driver.commitOwned ctx tx with
      | .ok () => return .ok a
      | .error e => return .error e
  | .error cause => do return .error (← pool.driver.rollbackOwned ctx tx cause)

/-- The call that finishes a transaction after work with a result. -/
def finishing (tx : Nat) : Except Error α → PoolCall
  | .ok _ => .commit tx
  | .error _ => .rollback tx

/-- A call to finish a transaction. -/
def PoolEvent.finishes (tx : Nat) : PoolEvent → Bool
  | .asked (.commit other) | .asked (.rollback other) => other == tx
  | _ => false

/-- How many calls to finish a transaction reached the pool. -/
def finishCount (tx : Nat) (log : List PoolEvent) : Nat := log.countP (PoolEvent.finishes tx)

/-- Between two worlds the handle of a transaction is closed, and if it was open then one call to
finish the transaction reached the pool. -/
structure Finished
    (tx : Nat)
    (call : PoolCall)
    (before after : World (List PoolEvent) S) : Prop where
  openTx : after.openTx = (before.closed tx).openTx
  asked : tx ∈ before.openTx →
    ∃ gained, Exchanged call gained ∧ after.driver = before.driver ++ gained
  silent : tx ∉ before.openTx → after.driver = before.driver

section Worlds

@[simp]
theorem World.driver_closed
    (tx : Nat) :
    (world.closed tx).driver = world.driver :=
  rfl

@[simp]
theorem World.now_closed
    (tx : Nat) :
    (world.closed tx).now = world.now :=
  rfl

@[simp]
theorem World.mem_openTx_closed
    {tx other : Nat} :
    other ∈ (world.closed tx).openTx ↔ other ∈ world.openTx ∧ other ≠ tx := by
  simp [World.closed]

/-- The number of a new transaction is in no event before it. -/
theorem World.tx?_ne_newTx
    {event : PoolEvent}
    (hevent : event ∈ world.driver) :
    event.tx? ≠ some world.newTx :=
  tx?_ne_freshTx (List.mem_append_left _ hevent)

end Worlds

section Counting

variable {tx : Nat}

theorem finishCount_append
    (log more : List PoolEvent) :
    finishCount tx (log ++ more) = finishCount tx log + finishCount tx more :=
  List.countP_append

theorem finishCount_eq_zero
    {log : List PoolEvent}
    (hlog : ∀ event ∈ log, event.finishes tx = false) :
    finishCount tx log = 0 := by
  apply List.countP_eq_zero.2
  intro event hevent
  simp [hlog event hevent]

/-- A call that finishes a transaction is about that transaction. -/
theorem PoolEvent.tx?_of_finishes
    {event : PoolEvent}
    (hfinishes : event.finishes tx = true) :
    event.tx? = some tx := by
  unfold PoolEvent.finishes at hfinishes
  split at hfinishes
  · simpa [PoolEvent.tx?, PoolCall.tx?] using hfinishes
  · simpa [PoolEvent.tx?, PoolCall.tx?] using hfinishes
  · cases hfinishes

theorem finishCount_exchanged
    {call : PoolCall}
    {gained : List PoolEvent}
    (hexchanged : Exchanged call gained) :
    finishCount tx gained = if PoolEvent.finishes tx (.asked call) then 1 else 0 := by
  cases hexchanged with
  | unanswered =>
      unfold finishCount
      rw [List.countP_singleton]
  | answered failure =>
      unfold finishCount
      rw [List.countP_cons]
      simp [PoolEvent.finishes]

/-- Nothing that is about a new transaction happened before it. -/
theorem World.countP_newTx
    {p : PoolEvent → Bool}
    (hp : ∀ event, p event = true → event.tx? = some world.newTx) :
    world.driver.countP p = 0 := by
  apply List.countP_eq_zero.2
  intro event hevent hholds
  exact World.tx?_ne_newTx hevent (hp event hholds)

/-- A transaction that has just begun is not finished. -/
theorem World.finishCount_begun
    (time : Nat) :
    finishCount world.newTx (world.begun time).driver = 0 := by
  have hbefore : finishCount world.newTx world.driver = 0 :=
    World.countP_newTx fun _ => PoolEvent.tx?_of_finishes
  have hstart : (world.begun time).driver
      = world.driver ++ [.asked .begin, .answered .begin none, .began world.newTx] := rfl
  rw [hstart, finishCount_append, hbefore]
  rfl

end Counting

section Handles

variable (pool : AnyPool ρ) (tx : Nat)

theorem run_sendThrough
    (statements : List Statement) :
    (pool.driver.sendThrough tx statements).run cutoff world
      = if tx ∈ world.openTx then (pool.askRows (.sendIn tx statements)).run cutoff world
        else (.done (.error .txClosed), world) := by
  unfold Driver.sendThrough
  simp only [Work.run_bind, Driver.isClosed, Work.run_look, Ending.andThen_done]
  by_cases hopen : tx ∈ world.openTx
  · simp [hopen]
    rfl
  · simp [hopen]

theorem run_closeHandle :
    (Driver.closeHandle tx).run cutoff world
      = (.done (world.openTx.contains tx), world.closed tx) :=
  rfl

theorem run_commitThrough :
    (pool.driver.commitThrough tx).run cutoff world
      = if tx ∈ world.openTx then (pool.askPlain (.commit tx)).run cutoff (world.closed tx)
        else (.done (.error .txClosed), world.closed tx) := by
  unfold Driver.commitThrough
  rw [Work.run_bind, run_closeHandle, Ending.andThen_done]
  by_cases hopen : tx ∈ world.openTx
  · rw [if_pos hopen, if_pos (by simpa using hopen)]
    rfl
  · rw [if_neg hopen, if_neg (by simpa using hopen)]
    rfl

theorem run_rollbackThrough :
    (pool.driver.rollbackThrough tx).run cutoff world
      = if tx ∈ world.openTx then (pool.askPlain (.rollback tx)).run cutoff (world.closed tx)
        else (.done (.error .txClosed), world.closed tx) := by
  unfold Driver.rollbackThrough
  rw [Work.run_bind, run_closeHandle, Ending.andThen_done]
  by_cases hopen : tx ∈ world.openTx
  · rw [if_pos hopen, if_pos (by simpa using hopen)]
    rfl
  · rw [if_neg hopen, if_neg (by simpa using hopen)]
    rfl

theorem dropHandle_eq
    (world : World (List PoolEvent) S) :
    pool.driver.dropHandle tx world
      = if tx ∈ world.openTx then (world.closed tx).gain [.dropped tx] else world := by
  unfold Driver.dropHandle
  by_cases hopen : tx ∈ world.openTx
  · rw [if_pos hopen, if_pos (by simpa using hopen)]
    rfl
  · rw [if_neg hopen, if_neg (by simpa using hopen)]

/-- A handle that is closed already leaves no trace when it is dropped. -/
theorem dropHandle_closed
    {after between : World (List PoolEvent) S}
    (hafter : after.openTx = (between.closed tx).openTx) :
    pool.driver.dropHandle tx after = after := by
  rw [dropHandle_eq, if_neg (by simp [hafter])]

end Handles

section Owners

variable (pool : AnyPool ρ) (ctx : Context)

/-- What becomes of the answer to a call that begins a transaction. -/
def numbered (answer : Except DriverError Unit) (left : World (List PoolEvent) S) :
    Ending (Except DriverError Nat) × World (List PoolEvent) S :=
  match answer with
  | .error e => (.done (.error e), left)
  | .ok () => (.done (.ok (freshTx left.driver)), left.gain [.began (freshTx left.driver)])

theorem run_askBegin :
    pool.askBegin.run cutoff world
      = Ending.andThen ((pool.askPlain .begin).run cutoff world) numbered := by
  unfold AnyPool.askBegin
  rw [Work.run_bind]
  refine congrArg (Ending.andThen _) ?_
  funext answer left
  rcases answer with e | ⟨⟩ <;> rfl

/-- A transaction is begun in one call. -/
theorem run_within_begin :
    (within ctx .begin pool.askBegin).run cutoff world
      = match pool.acknowledged .begin (earliest ctx.deadline cutoff) world.driver world.now with
        | none =>
            (unanswered ctx.deadline cutoff .begin,
              (world.waited (earliest ctx.deadline cutoff)).gain [.asked .begin])
        | some (time, .error e) =>
            (.done (.ok (.error e)),
              { world with now := time }.gain [.asked .begin, .answered .begin (some e)])
        | some (time, .ok ()) =>
            (.done (.ok (.ok world.newTx)),
              { world with now := time }.gain
                [.asked .begin, .answered .begin none, .began world.newTx]) := by
  have hask : pool.askBegin.run (earliest ctx.deadline cutoff) world = _ := run_askBegin pool
  rw [run_askPlain] at hask
  unfold within
  rcases hreply : pool.acknowledged .begin (earliest ctx.deadline cutoff) world.driver world.now
    with _ | ⟨time, e | ⟨⟩⟩
  · rw [hreply] at hask
    exact until?_lapsed (hask.trans (andThen_lapsed _))
  · rw [hreply] at hask
    exact until?_answered hask
  · rw [hreply] at hask
    have hbegun : pool.askBegin.run (earliest ctx.deadline cutoff) world
        = (.done (.ok world.newTx), { world with now := time }.gain
          [.asked .begin, .answered .begin none, .began world.newTx]) := by
      rw [hask]
      simp [numbered, World.gain, World.newTx, failure?]
    exact until?_answered hbegun

/-- What a new transaction is worked on with, and then: nothing if it could not be begun, and else
the work, after which a handle still open is dropped. -/
theorem run_withTransaction
    (hctx : ctx.tx = none)
    (body : Nat → Context → Work (List PoolEvent) S (Except Error α)) :
    (pool.driver.withTransaction ctx body).run cutoff world
      = match pool.acknowledged .begin (earliest ctx.deadline cutoff) world.driver world.now with
        | none =>
            (unanswered ctx.deadline cutoff .begin,
              (world.waited (earliest ctx.deadline cutoff)).gain [.asked .begin])
        | some (time, .error e) =>
            (.done (.error (.begin e)),
              { world with now := time }.gain [.asked .begin, .answered .begin (some e)])
        | some (time, .ok ()) =>
            let out := (body world.newTx (ctx.derive world.newTx)).run cutoff (world.begun time)
            (out.1, pool.driver.dropHandle world.newTx out.2) := by
  unfold Driver.withTransaction
  rw [hctx]
  have hdriver : (pool.driver.begin : Work (List PoolEvent) S _) = pool.askBegin := rfl
  simp only [Work.run_bind, hdriver, run_within_begin]
  rcases pool.acknowledged .begin (earliest ctx.deadline cutoff) world.driver world.now
    with _ | ⟨time, e | ⟨⟩⟩
  · exact andThen_unanswered fun _ _ => rfl
  · rfl
  · rfl

/-- Sending a batch keeps what the sending of its statements keeps. -/
theorem keeps_sendBatch
    {R : World (List PoolEvent) S → World (List PoolEvent) S → Prop}
    (hframe : Frame R)
    (batch : Batch ρ S)
    {send : List Statement → Work (List PoolEvent) S (Answers ρ)}
    (hsend : ∀ statements, (send statements).Keeps R) :
    (Driver.sendBatch ctx batch send).Keeps R := by
  unfold Driver.sendBatch
  split
  · exact Work.keeps_pure hframe _
  · apply Work.keeps_bind hframe
    · intro cutoff world
      obtain ⟨notes, hrecord⟩ := world.record_eq [("statements", toString batch.size)]
      rw [Work.run_change, hrecord]
      exact hframe.quiet rfl rfl
    · intro _
      apply Work.keeps_bind hframe (keeps_until? (hsend _) ctx.deadline .send)
      rintro (e | e | answers)
      · exact Work.keeps_pure hframe _
      · exact Work.keeps_pure hframe _
      · dsimp only
        split
        · exact Work.keeps_pure hframe _
        · exact fun _ _ => hframe.quiet rfl rfl

theorem transact_nested
    {tx : Nat}
    (htx : ctx.tx = some tx)
    (body : Context → Nat → Work (List PoolEvent) S (Except Error α)) :
    pool.driver.transact ctx body = body ctx tx := by
  unfold Driver.transact
  rw [htx]

theorem run_transact
    (hctx : ctx.tx = none)
    (body : Context → Nat → Work (List PoolEvent) S (Except Error α)) :
    pool.driver.transact ctx body
      = pool.driver.withTransaction ctx fun tx ctx => body ctx tx >>= pool.finish ctx tx := by
  unfold Driver.transact
  rw [hctx]
  rfl

theorem askPlain_finished
    {tx : Nat}
    {call : PoolCall}
    {w : Work (List PoolEvent) S (Except DriverError Unit)}
    (hrun : ∀ cutoff world, w.run cutoff world
      = if tx ∈ world.openTx then (pool.askPlain call).run cutoff (world.closed tx)
        else (.done (.error .txClosed), world.closed tx)) :
    w.Keeps (Finished tx call) := by
  intro cutoff world
  rw [hrun]
  by_cases hopen : tx ∈ world.openTx
  · rw [if_pos hopen, run_askPlain]
    cases pool.acknowledged call cutoff (world.closed tx).driver (world.closed tx).now with
    | none =>
        exact ⟨rfl, fun _ => ⟨_, .unanswered, rfl⟩, fun hclosed => absurd hopen hclosed⟩
    | some reply =>
        exact ⟨rfl, fun _ => ⟨_, .answered _, rfl⟩, fun hclosed => absurd hopen hclosed⟩
  · rw [if_neg hopen]
    exact ⟨rfl, fun h => absurd h hopen, fun _ => rfl⟩

theorem commitThrough_finished
    (tx : Nat) :
    (pool.driver.commitThrough tx : Work (List PoolEvent) S _).Keeps (Finished tx (.commit tx)) :=
  askPlain_finished pool fun _ _ => run_commitThrough pool tx

theorem rollbackThrough_finished
    (tx : Nat) :
    (pool.driver.rollbackThrough tx : Work (List PoolEvent) S _).Keeps
      (Finished tx (.rollback tx)) :=
  askPlain_finished pool fun _ _ => run_rollbackThrough pool tx

/-- An owner commits through the handle, once. -/
theorem commitOwned_finished
    (tx : Nat) :
    (pool.driver.commitOwned ctx tx : Work (List PoolEvent) S _).Keeps
      (Finished tx (.commit tx)) := by
  unfold Driver.commitOwned
  apply Work.keeps_bind_still
  · exact keeps_until? (commitThrough_finished pool tx) ctx.deadline .commit
  · rintro (e | e | ⟨⟩) cutoff world
    · rfl
    · cases e <;> rfl
    · rfl

/-- An owner that finds the handle closed takes the transaction for committed. Otherwise it commits
and reports the answer, and that the transaction is closed is a good answer too. -/
theorem run_commitOwned
    (tx : Nat) :
    (pool.driver.commitOwned ctx tx).run cutoff world
      = if tx ∈ world.openTx then
          match pool.acknowledged (.commit tx) (earliest ctx.deadline cutoff) world.driver
              world.now with
          | none =>
              (unanswered ctx.deadline cutoff .commit,
                ((world.closed tx).waited (earliest ctx.deadline cutoff)).gain
                  [.asked (.commit tx)])
          | some (time, answer) =>
              (.done (commitReport answer), { world.closed tx with now := time }.gain
                [.asked (.commit tx), .answered (.commit tx) (failure? answer)])
        else (.done (.ok ()), world.closed tx) := by
  have hthrough : (pool.driver.commitThrough tx).run (earliest ctx.deadline cutoff) world = _ :=
    run_commitThrough pool tx
  unfold Driver.commitOwned within
  rw [Work.run_bind]
  by_cases hopen : tx ∈ world.openTx
  · rw [if_pos hopen, run_askPlain, World.driver_closed, World.now_closed] at hthrough
    rw [if_pos hopen]
    rcases hreply : pool.acknowledged (.commit tx) (earliest ctx.deadline cutoff) world.driver
      world.now with _ | ⟨time, answer⟩
    · rw [hreply] at hthrough
      rw [until?_lapsed hthrough]
      exact andThen_unanswered fun _ _ => rfl
    · rw [hreply] at hthrough
      rw [until?_answered hthrough]
      rcases answer with e | ⟨⟩
      · cases e <;> rfl
      · rfl
  · rw [if_neg hopen] at hthrough
    rw [if_neg hopen, until?_answered hthrough]
    rfl

/-- What the rollback of an owner keeps, besides the line that it writes. -/
theorem keeps_rollbackOwned
    {R : World (List PoolEvent) S → World (List PoolEvent) S → Prop}
    (hnoted : ∀ {before after : World (List PoolEvent) S} level fields,
      R (before.note level fields) after → R before after)
    {tx : Nat}
    (hthrough : (pool.driver.rollbackThrough tx).Keeps R)
    (cause : Error) :
    (pool.driver.rollbackOwned ctx tx cause).Keeps R := by
  have hgrace : (withinGrace ctx Driver.rollbackGrace .rollback
      (pool.driver.rollbackThrough tx)).Keeps R := by
    intro cutoff world
    unfold withinGrace
    rw [Work.run_bind, Work.run_now, Ending.andThen_done]
    exact keeps_until? hthrough _ .rollback cutoff world
  intro cutoff world
  unfold Driver.rollbackOwned
  rw [Work.run_bind, Work.run_change, Ending.andThen_done]
  apply hnoted
  apply Work.keeps_bind_still hgrace
  rintro (timeout | e | ⟨⟩) cutoff world
  · rfl
  · cases e <;> rfl
  · rfl

/-- An owner rolls back through the handle, once. -/
theorem rollbackOwned_finished
    (tx : Nat)
    (cause : Error) :
    (pool.driver.rollbackOwned ctx tx cause : Work (List PoolEvent) S _).Keeps
      (Finished tx (.rollback tx)) :=
  keeps_rollbackOwned pool ctx (fun _ _ hfinished =>
    ⟨hfinished.openTx, hfinished.asked, hfinished.silent⟩) (rollbackThrough_finished pool tx) cause

/-- An owner commits after success and rolls back after failure. -/
theorem finish_finished
    (tx : Nat)
    (result : Except Error α) :
    (pool.finish ctx tx result : Work (List PoolEvent) S _).Keeps
      (Finished tx (finishing tx result)) := by
  cases result with
  | ok a =>
      apply Work.keeps_bind_still (commitOwned_finished pool ctx tx)
      rintro (e | ⟨⟩) cutoff world <;> rfl
  | error cause =>
      apply Work.keeps_bind_still (rollbackOwned_finished pool ctx tx cause)
      intro e cutoff world
      rfl

end Owners
end QueryBatch
