import QueryBatch.Proofs.Batch.Ends
import QueryBatch.Proofs.Batch.Publication

/-!
# Calls return by the earliest deadline

A context keeps the earliest of all deadlines that were set on the way down to it. Whatever a pool
does, work that waits for it under a deadline returns by then, or at once if the deadline has passed
(`Work.KeepsTo`). That holds of every batch outside of transactions and of every batch in a
transaction that has no rollback of its own to make.

The rollback of an owner is waited for until the deadline or for a second after the failure,
whichever is later. So it may return that much late, and a rollback that is answered by then is
reported as it was answered.
-/

namespace QueryBatch

variable {σ ρ S α β : Type} {K : Type} {V : K → Type}

section Defs

/-- A step down a chain of contexts. -/
inductive Handing
  | deadline (time : Nat)
  | timeout (now ms : Nat)
  /-- A transaction that was begun for the calls below. -/
  | transaction (tx : Nat)

def Context.hand (ctx : Context) : Handing → Context
  | .deadline time => ctx.withDeadline time
  | .timeout now ms => ctx.withTimeout now ms
  | .transaction tx => ctx.derive tx

/-- The context at the end of a chain. -/
def Context.ofChain (chain : List Handing) : Context := chain.foldl Context.hand .empty

def Handing.deadline? : Handing → Option Nat
  | .deadline time => some time
  | .timeout now ms => some (now + ms)
  | .transaction _ => none

/-- The earliest deadline that is set anywhere along a chain. -/
def earliestDeadline (chain : List Handing) : Option Nat :=
  (chain.filterMap Handing.deadline?).min?

/-- A run returns, and no later than at a time. -/
def ReturnsBy (limit : Nat) (out : Ending α × World σ S) : Prop :=
  (∃ result, out.1 = .done result) ∧ out.2.now ≤ limit

/-- Work that lets itself be cut off: under a cut-off it ends by then, or at once. -/
def Work.Yields (w : Work σ S α) : Prop :=
  ∀ limit world, (w.run (some limit) world).1 ≠ .stuck ∧
    (w.run (some limit) world).2.now ≤ max world.now limit

/-- Work that keeps to a deadline: it ends by then, or at once, and is not cut off unless from
outside. -/
def Work.KeepsTo (deadline : Nat) (w : Work σ S α) : Prop :=
  ∀ cutoff world, (w.run cutoff world).1 ≠ .stuck ∧
    (cutoff = none → (w.run cutoff world).1 ≠ .cut) ∧
    (w.run cutoff world).2.now ≤ max world.now deadline

/-- A rollback that was given up counts as a failed connection. -/
def rollbackAnswer : Except Error (Except DriverError Unit) → Except DriverError Unit
  | .ok answer => answer
  | .error timeout => .error (.connection timeout.message)

/-- What an owner reports of a failure and the answer to its rollback: the failure alone, or both
joined. -/
def rollbackReport (cause : Error) : Except DriverError Unit → Error
  | .ok () | .error .txClosed => cause
  | .error e => .rollback cause e

/-- A batch began a transaction for itself, and its body failed with `cause` in the world `left`:
it has a rollback of its own to make. -/
def FailsInOwnTx [DecidableEq K] (pool : AnyPool ρ) (ctx : Context)
    (callback : Context → Callback ρ V) (world : World (List PoolEvent) (Cells V)) (cause : Error)
    (left : World (List PoolEvent) (Cells V)) : Prop :=
  let entered := { world with spans := "run_batch_in_transaction" :: world.spans }
  ctx.tx = none ∧ ∃ time,
    pool.acknowledged .begin ctx.deadline world.driver world.now = some (time, .ok ()) ∧
    (batchBody pool callback (ctx.derive world.newTx) world.newTx).run none (entered.begun time)
      = (.done (.error cause), left)

end Defs

section Chains

theorem deadline_foldl_hand
    (chain : List Handing)
    (ctx : Context) :
    (chain.foldl Context.hand ctx).deadline
      = (ctx.deadline.toList ++ chain.filterMap Handing.deadline?).min? := by
  induction chain generalizing ctx with
  | nil => cases hctx : ctx.deadline <;> simp [hctx]
  | cons step chain ih =>
      -- a new deadline joins those that are set further down
      have hset : ∀ time, (ctx.withDeadline time).deadline.toList ++ chain.filterMap _
          = Work.earlier time ctx.deadline :: chain.filterMap Handing.deadline? := fun _ => rfl
      have hjoin : ∀ time, (Work.earlier time ctx.deadline
          :: chain.filterMap Handing.deadline?).min?
            = (ctx.deadline.toList ++ time :: chain.filterMap Handing.deadline?).min? := by
        intro time
        cases ctx.deadline with
        | none => rfl
        | some deadline =>
            change (min time deadline :: _).min? = (deadline :: time :: _).min?
            rw [List.min?_cons', List.min?_cons', List.foldl_cons, Nat.min_comm]
      rw [List.foldl_cons, ih]
      cases step with
      | deadline time => exact (congrArg List.min? (hset time)).trans (hjoin time)
      | timeout now ms => exact (congrArg List.min? (hset (now + ms))).trans (hjoin (now + ms))
      | transaction tx => rfl

/-- The deadline of a context is the earliest one along its chain. -/
theorem deadline_ofChain
    (chain : List Handing) :
    (Context.ofChain chain).deadline = earliestDeadline chain :=
  deadline_foldl_hand chain .empty

end Chains

section Yielding

theorem earliest_none
    (deadline : Option Nat) :
    earliest deadline none = deadline := by
  cases deadline <;> rfl

theorem yields_askPlain
    (pool : AnyPool ρ)
    (call : PoolCall) :
    (pool.askPlain call : Work (List PoolEvent) S _).Yields := by
  intro limit world
  rw [run_askPlain]
  cases hreply : pool.acknowledged call (some limit) world.driver world.now with
  | none => exact ⟨nofun, Nat.le_refl _⟩
  | some reply => exact ⟨nofun, PoolReply.received_le hreply⟩

theorem yields_askRows
    (pool : AnyPool ρ)
    (call : PoolCall) :
    (pool.askRows call : Work (List PoolEvent) S _).Yields := by
  intro limit world
  rw [run_askRows]
  cases hreply : pool.received call (some limit) world.driver world.now with
  | none => exact ⟨nofun, Nat.le_refl _⟩
  | some reply => exact ⟨nofun, PoolReply.received_le hreply⟩

/-- A call through a handle lets itself be cut off if the call to the pool does. -/
theorem yields_through
    {tx : Nat}
    {enter : World (List PoolEvent) S → World (List PoolEvent) S}
    (henter : ∀ world, (enter world).now = world.now)
    {through call : Work (List PoolEvent) S (Except DriverError α)}
    (hcall : call.Yields)
    (hrun : ∀ cutoff world, through.run cutoff world
      = if tx ∈ world.openTx then call.run cutoff (enter world)
        else (.done (.error .txClosed), enter world)) :
    through.Yields := by
  intro limit world
  rw [hrun, ← henter world]
  split
  · exact hcall limit (enter world)
  · exact ⟨nofun, Nat.le_max_left _ _⟩

theorem yields_sendThrough
    (pool : AnyPool ρ)
    (tx : Nat)
    (statements : List Statement) :
    (pool.driver.sendThrough tx statements : Work (List PoolEvent) S _).Yields :=
  yields_through (fun _ => rfl) (yields_askRows pool _) fun _ _ =>
    run_sendThrough pool tx statements

theorem yields_commitThrough
    (pool : AnyPool ρ)
    (tx : Nat) :
    (pool.driver.commitThrough tx : Work (List PoolEvent) S _).Yields :=
  yields_through (fun world => (rfl : (world.closed tx).now = world.now)) (yields_askPlain pool _)
    fun _ _ => run_commitThrough pool tx

end Yielding

section Keeping

variable {deadline : Nat} {w : Work σ S α}

theorem Work.keepsTo_of_done
    (hrun : ∀ cutoff world, ∃ a, (w.run cutoff world).1 = .done a ∧
      (w.run cutoff world).2.now = world.now) :
    w.KeepsTo deadline := by
  intro cutoff world
  obtain ⟨a, hdone, hnow⟩ := hrun cutoff world
  rw [hdone, hnow]
  exact ⟨nofun, nofun, Nat.le_max_left _ _⟩

theorem Work.keepsTo_pure
    (a : α) :
    (pure a : Work σ S α).KeepsTo deadline :=
  keepsTo_of_done fun _ _ => ⟨a, rfl, rfl⟩

theorem Work.keepsTo_bind
    {next : α → Work σ S β}
    (hw : w.KeepsTo deadline)
    (hnext : ∀ a, (next a).KeepsTo deadline) :
    (w >>= next).KeepsTo deadline := by
  intro cutoff world
  rw [run_bind]
  obtain ⟨hends, huncut, htime⟩ := hw cutoff world
  rcases hrun : w.run cutoff world with ⟨a | _ | _, left⟩
  · rw [hrun] at htime
    obtain ⟨hends', huncut', htime'⟩ := hnext a cutoff left
    refine ⟨hends', huncut', htime'.trans ?_⟩
    dsimp only at htime
    omega
  · rw [hrun] at huncut htime
    exact ⟨nofun, fun hnone => absurd rfl (huncut hnone), htime⟩
  · rw [hrun] at hends
    exact absurd rfl hends

theorem Work.keepsTo_inSpan
    (hw : w.KeepsTo deadline)
    (name : String) :
    (inSpan name w).KeepsTo deadline :=
  fun cutoff world => hw cutoff { world with spans := name :: world.spans }

/-- Work that lets itself be cut off keeps to a deadline that it is given up at. -/
theorem keepsTo_until?
    (hw : w.Yields)
    (phase : Phase) :
    (until? (some deadline) phase w).KeepsTo deadline := by
  intro cutoff world
  obtain ⟨hends, htime⟩ := hw (Work.earlier deadline cutoff) world
  have hlimit : Work.earlier deadline cutoff ≤ deadline := by
    cases cutoff with
    | none => exact Nat.le_refl _
    | some limit => exact Nat.min_le_left _ _
  have hlate : (w.run (some (Work.earlier deadline cutoff)) world).2.now
      ≤ max world.now deadline := by omega
  rw [run_until?]
  change _ ∧ _ ∧ (w.run (some (Work.earlier deadline cutoff)) world).2.now ≤ _
  simp only [earliest]
  rcases hrun : w.run (some (Work.earlier deadline cutoff)) world with ⟨a | _ | _, left⟩
  · rw [hrun] at hlate
    exact ⟨by simp, by simp, hlate⟩
  · rw [hrun] at hlate
    change unanswered (some deadline) cutoff phase ≠ .stuck ∧
      (cutoff = none → unanswered (some deadline) cutoff phase ≠ .cut) ∧ _
    cases cutoff with
    | none => exact ⟨by simp [unanswered], by simp [unanswered], hlate⟩
    | some limit =>
        refine ⟨?_, fun hnone => absurd hnone (Option.some_ne_none limit), hlate⟩
        by_cases hle : deadline ≤ limit <;> simp [unanswered, hle]
  · rw [hrun] at hends
    exact absurd rfl hends

end Keeping

section Batches

variable [DecidableEq K] {pool : AnyPool ρ} {ctx : Context} {deadline : Nat}

omit [DecidableEq K] in
/-- Sending a batch keeps to the deadline of its context. -/
theorem keepsTo_sendBatch
    (hctx : ctx.deadline = some deadline)
    (batch : Batch ρ S)
    {send : List Statement → Work σ S (Answers ρ)}
    (hsend : ∀ statements, (send statements).Yields) :
    (Driver.sendBatch ctx batch send).KeepsTo deadline := by
  unfold Driver.sendBatch
  split
  · exact Work.keepsTo_pure _
  · apply Work.keepsTo_bind
    · apply Work.keepsTo_of_done
      intro cutoff world
      obtain ⟨notes, hrecord⟩ := world.record_eq [("statements", toString batch.size)]
      exact ⟨(), rfl, by rw [Work.run_change, hrecord]⟩
    · intro _
      apply Work.keepsTo_bind
      · unfold within
        rw [hctx]
        exact keepsTo_until? (hsend _) .send
      · rintro (e | e | answers)
        · exact Work.keepsTo_pure _
        · exact Work.keepsTo_pure _
        · dsimp only
          split
          · exact Work.keepsTo_pure _
          · exact Work.keepsTo_of_done fun _ _ => ⟨_, rfl, rfl⟩

/-- Filling a batch takes no time, so filling and sending it keeps to the deadline. -/
theorem keepsTo_batch
    (hctx : ctx.deadline = some deadline)
    (callback : Callback ρ V)
    {send : List Statement → Work (List PoolEvent) (Cells V) (Answers ρ)}
    (hsend : ∀ statements, (send statements).Yields)
    {next : Except Error (Batch ρ (Cells V)) → Work (List PoolEvent) (Cells V) (Except Error Unit)}
    (herror : ∀ e, next (.error e) = pure (.error e))
    (hok : ∀ batch, next (.ok batch) = Driver.sendBatch ctx batch send) :
    (callback.run.fill >>= next).KeepsTo deadline := by
  apply Work.keepsTo_bind
  · apply Work.keepsTo_of_done
    intro cutoff world
    obtain ⟨entries, notes, -, hrun⟩ := callback.run_fill cutoff world
    rw [hrun]
    exact ⟨_, rfl, rfl⟩
  · rintro (e | batch)
    · rw [herror]
      exact Work.keepsTo_pure _
    · rw [hok]
      exact keepsTo_sendBatch hctx batch hsend

theorem keepsTo_runBatch
    (hctx : ctx.deadline = some deadline)
    (callback : Context → Callback ρ V) :
    (pool.driver.runBatch ctx fun ctx => (callback ctx).run).KeepsTo deadline := by
  unfold Driver.runBatch
  apply Work.keepsTo_inSpan
  exact keepsTo_batch hctx (callback ctx) (fun _ => yields_askRows pool _) (fun _ => rfl)
    (fun _ => rfl)

variable (pool) in
theorem keepsTo_batchBody
    (hctx : ctx.deadline = some deadline)
    (callback : Context → Callback ρ V)
    (tx : Nat) :
    (batchBody pool callback ctx tx).KeepsTo deadline :=
  keepsTo_batch hctx (callback ctx) (yields_sendThrough pool tx) (fun _ => rfl) (fun _ => rfl)

/-- A batch in the transaction of its context keeps to the deadline. -/
theorem keepsTo_runBatchInTransaction
    (hctx : ctx.deadline = some deadline)
    (callback : Context → Callback ρ V)
    {tx : Nat}
    (htx : ctx.tx = some tx) :
    (pool.driver.runBatchInTransaction ctx fun ctx => (callback ctx).run).KeepsTo deadline := by
  rw [runBatchInTransaction_eq, transact_nested pool ctx htx]
  exact Work.keepsTo_inSpan (keepsTo_batchBody pool hctx callback tx) _

end Batches

section Owners

variable {pool : AnyPool ρ} {ctx : Context} {tx : Nat}

/-- An owner keeps to the deadline when it finishes a transaction after success. -/
theorem keepsTo_finish_ok
    {deadline : Nat}
    (hctx : ctx.deadline = some deadline)
    (a : α) :
    (pool.finish ctx tx (.ok a) : Work (List PoolEvent) S _).KeepsTo deadline := by
  apply Work.keepsTo_bind
  · unfold Driver.commitOwned within
    rw [hctx]
    apply Work.keepsTo_bind (keepsTo_until? (yields_commitThrough pool tx) .commit)
    rintro (e | e | ⟨⟩)
    · exact Work.keepsTo_pure _
    · cases e <;> exact Work.keepsTo_pure _
    · exact Work.keepsTo_pure _
  · rintro (e | ⟨⟩) <;> exact Work.keepsTo_pure _

/-- The rollback of an owner is waited for until a limit, and its answer is reported. -/
theorem run_rollbackOwned
    (cause : Error)
    (cutoff : Option Nat)
    (world : World (List PoolEvent) S) :
    (pool.driver.rollbackOwned ctx tx cause).run cutoff world
      = Ending.andThen
          ((until? (ctx.deadline.map fun deadline => max deadline (world.now + 1000)) .rollback
            (pool.driver.rollbackThrough tx)).run cutoff
              (world.note "WARN"
                [("message", "rolling back transaction"), ("error", cause.message)]))
          fun answer left => (.done (rollbackReport cause (rollbackAnswer answer)), left) := by
  unfold Driver.rollbackOwned withinGrace
  simp only [Work.run_bind, Work.run_change, Work.run_now, Ending.andThen_done]
  refine congrArg (Ending.andThen _) ?_
  funext answer left
  rcases answer with e | e | ⟨⟩
  · rfl
  · cases e <;> rfl
  · rfl

variable (pool) (ctx) (α) in
/-- An owner that finds the handle open after a failure asks for the rollback, and reports what it
receives by the limit. -/
theorem run_finish_error_asked
    {left : World (List PoolEvent) S}
    (hopen : tx ∈ left.openTx)
    (cause : Error)
    (cutoff : Option Nat) :
    let limit := ctx.deadline.map fun deadline => max deadline (left.now + 1000)
    let answer := pool.acknowledged (.rollback tx) (earliest limit cutoff) left.driver left.now
    ∃ after : World (List PoolEvent) S,
      (pool.finish ctx tx (.error cause : Except Error α)).run cutoff left
        = Ending.andThen
            (answer.elim (unanswered limit cutoff .rollback) (fun reply => .done (.ok reply.2)),
              after)
            (fun answer left =>
              (.done (.error (rollbackReport cause (rollbackAnswer answer))), left)) ∧
      after.now = answer.elim (left.waited (earliest limit cutoff)).now Prod.fst := by
  intro limit answer
  let noted := left.note "WARN"
    [("message", "rolling back transaction"), ("error", cause.message)]
  have hout : (pool.finish ctx tx (.error cause : Except Error α)).run cutoff left
      = Ending.andThen ((pool.driver.rollbackOwned ctx tx cause).run cutoff left)
          fun e left => (.done (.error e), left) := rfl
  have hasked : (pool.driver.rollbackThrough tx).run (earliest limit cutoff) noted = _ :=
    run_rollbackThrough pool tx
  have hopen : tx ∈ noted.openTx := hopen
  have hreplied : pool.acknowledged (.rollback tx) (earliest limit cutoff) (noted.closed tx).driver
      (noted.closed tx).now = answer := rfl
  rw [if_pos hopen, run_askPlain, hreplied] at hasked
  rw [run_rollbackOwned] at hout
  rw [hout]
  rcases answer with _ | ⟨time, reply⟩
  · rw [until?_lapsed hasked]
    refine ⟨((noted.closed tx).waited (earliest limit cutoff)).gain [.asked (.rollback tx)],
      ?_, rfl⟩
    cases unanswered limit cutoff .rollback <;> rfl
  · rw [until?_answered hasked]
    exact ⟨_, rfl, rfl⟩

variable (pool) (ctx) (α) in
/-- Without a cut-off from outside the rollback is reported as it was answered, or as one that was
given up at the limit. -/
theorem run_finish_error_open
    {left : World (List PoolEvent) S}
    (hopen : tx ∈ left.openTx)
    (cause : Error) :
    let limit := ctx.deadline.map fun deadline => max deadline (left.now + 1000)
    let out := (pool.finish ctx tx (.error cause : Except Error α)).run none left
    (∀ time answer,
      pool.acknowledged (.rollback tx) limit left.driver left.now = some (time, answer) →
        out.1 = .done (.error (rollbackReport cause answer)) ∧ out.2.now = time) ∧
    ∀ last, limit = some last →
      pool.acknowledged (.rollback tx) limit left.driver left.now = none →
        out.1 = .done (.error (.rollback cause
          (.connection (Error.deadlineExceeded .rollback).message))) ∧
          out.2.now = max left.now last := by
  intro limit out
  obtain ⟨after, hout, hnow⟩ := run_finish_error_asked α pool ctx hopen cause none
  rw [earliest_none] at hout hnow
  change out = _ at hout
  refine ⟨fun time answer hreply => ?_, fun last hlast hreply => ?_⟩
  · rw [hreply] at hout hnow
    rw [hout]
    exact ⟨rfl, hnow⟩
  · have hlast : ctx.deadline.map _ = some last := hlast
    rw [hreply, hlast] at hout hnow
    rw [hout]
    exact ⟨rfl, hnow⟩

/-- A rollback is answered in time exactly if its answer comes by the limit. -/
theorem acknowledged_eq_none_iff
    {call : PoolCall}
    {limit : Nat}
    {log : List PoolEvent}
    {now : Nat}
    (hlimit : now ≤ limit) :
    pool.acknowledged call (some limit) log now = none ↔
      ∀ ms answer, pool.plain log now call = .after ms answer → limit < now + ms := by
  unfold AnyPool.acknowledged
  cases pool.plain log now call with
  | never => simp [PoolReply.received]
  | after ms answer =>
      have hin : (ms = 0 ∨ now + ms ≤ limit) ↔ now + ms ≤ limit := by omega
      simp [PoolReply.received, hin]

variable (pool) (ctx) (α) in
/-- An owner that rolls back returns by the limit of its rollback. One that is answered by then is
reported as it was answered, and only a later one is given up. -/
theorem rollback_returns
    {left : World (List PoolEvent) S}
    (hopen : tx ∈ left.openTx)
    (cause : Error) :
    let out := (pool.finish ctx tx (.error cause : Except Error α)).run none left
    (∀ d ∈ ctx.deadline, ReturnsBy (max d (left.now + 1000)) out) ∧
    (∀ ms answer, pool.plain left.driver left.now (.rollback tx) = .after ms answer →
      (∀ d ∈ ctx.deadline, left.now + ms ≤ max d (left.now + 1000)) →
        out.1 = .done (.error (rollbackReport cause answer)) ∧ out.2.now = left.now + ms) ∧
    ∀ d ∈ ctx.deadline,
      (∀ ms answer, pool.plain left.driver left.now (.rollback tx) = .after ms answer →
        max d (left.now + 1000) < left.now + ms) →
      out.1 = .done (.error (.rollback cause
        (.connection "deadline exceeded while waiting to roll back transaction"))) ∧
        out.2.now = max d (left.now + 1000) := by
  intro out
  obtain ⟨hanswered, hgivenUp⟩ := run_finish_error_open α pool ctx hopen cause
  have hlimit : ∀ d ∈ ctx.deadline,
      (ctx.deadline.map fun deadline => max deadline (left.now + 1000))
        = some (max d (left.now + 1000)) :=
    fun d hd => congrArg (Option.map _) hd
  refine ⟨fun d hd => ?_, fun ms answer hreply hin => ?_, fun d hd hlate => ?_⟩
  · rw [hlimit d hd] at hanswered hgivenUp
    cases hreply : pool.acknowledged (.rollback tx) (some (max d (left.now + 1000))) left.driver
      left.now with
    | none =>
        obtain ⟨hending, hnow⟩ := hgivenUp _ rfl hreply
        exact ⟨⟨_, hending⟩, by rw [hnow]; omega⟩
    | some reply =>
        obtain ⟨hending, hnow⟩ := hanswered _ _ hreply
        have htime := PoolReply.received_le hreply
        exact ⟨⟨_, hending⟩, by rw [hnow]; omega⟩
  · apply hanswered
    unfold AnyPool.acknowledged
    rw [hreply]
    refine if_pos (.inr fun l hl => ?_)
    obtain ⟨d, hd, rfl⟩ := Option.mem_map.1 hl
    exact hin d hd
  · rw [hlimit d hd] at hgivenUp
    obtain ⟨hending, hnow⟩ :=
      hgivenUp _ rfl ((acknowledged_eq_none_iff (by omega)).2 hlate)
    refine ⟨hending, ?_⟩
    rw [hnow]
    omega

theorem now_dropHandle
    (world : World (List PoolEvent) S) :
    (pool.driver.dropHandle tx world).now = world.now := by
  rw [dropHandle_eq]
  split <;> rfl

end Owners

section Calls

variable [DecidableEq K] {pool : AnyPool ρ} {ctx : Context} {callback : Context → Callback ρ V}
variable {world left : World (List PoolEvent) (Cells V)}

theorem Work.KeepsTo.returnsBy
    {deadline : Nat}
    {w : Work σ S α}
    (hw : w.KeepsTo deadline)
    (world : World σ S) :
    ReturnsBy (max world.now deadline) (w.run none world) := by
  obtain ⟨hends, huncut, htime⟩ := hw none world
  refine ⟨?_, htime⟩
  cases hending : (w.run none world).1 with
  | done result => exact ⟨result, rfl⟩
  | cut => exact absurd hending (huncut rfl)
  | stuck => exact absurd hending hends

/-- A run that ends like another one, at the same time, returns no later. -/
theorem ReturnsBy.of_same
    {σ' S' : Type}
    {limit limit' : Nat}
    {out : Ending α × World σ S}
    {other : Ending α × World σ' S'}
    (hreturns : ReturnsBy limit out)
    (hending : other.1 = out.1)
    (hnow : other.2.now = out.2.now)
    (hle : limit ≤ limit') :
    ReturnsBy limit' other := by
  obtain ⟨hanswer, htime⟩ := hreturns
  exact ⟨hending ▸ hanswer, hnow ▸ htime.trans hle⟩

variable (callback) in
/-- A batch that could begin a transaction for itself ends when it has finished that after its
body. -/
theorem run_own_batch
    (hctx : ctx.tx = none)
    {time : Nat}
    (hbegin : pool.acknowledged .begin ctx.deadline world.driver world.now = some (time, .ok ())) :
    let entered := { world with spans := "run_batch_in_transaction" :: world.spans }
    let out :=
      (pool.driver.runBatchInTransaction ctx fun ctx => (callback ctx).run).run none world
    let finished := Ending.andThen
      ((batchBody pool callback (ctx.derive world.newTx) world.newTx).run none (entered.begun time))
      fun result left => (pool.finish (ctx.derive world.newTx) world.newTx result).run none left
    out.1 = finished.1 ∧ out.2.now = finished.2.now := by
  rw [runBatchInTransaction_eq, Work.run_inSpan, run_transact pool ctx hctx,
    run_withTransaction pool ctx hctx, earliest_none]
  dsimp only
  rw [hbegin]
  exact ⟨rfl, now_dropHandle _⟩

/-- A batch that begins a transaction for itself returns by the deadline if its body does not
fail. -/
theorem own_batch_returns
    {deadline : Nat}
    (hctx : ctx.tx = none)
    (hdeadline : ctx.deadline = some deadline)
    (hbody : ∀ cause left, ¬ FailsInOwnTx pool ctx callback world cause left) :
    ReturnsBy (max world.now deadline)
      ((pool.driver.runBatchInTransaction ctx fun ctx => (callback ctx).run).run none world) := by
  rcases hbegin : pool.acknowledged .begin ctx.deadline world.driver world.now
    with _ | ⟨time, e | ⟨⟩⟩
  · rw [runBatchInTransaction_eq, Work.run_inSpan, run_transact pool ctx hctx,
      run_withTransaction pool ctx hctx, earliest_none, hbegin, hdeadline]
    exact ⟨⟨_, rfl⟩, Nat.le_refl _⟩
  · rw [runBatchInTransaction_eq, Work.run_inSpan, run_transact pool ctx hctx,
      run_withTransaction pool ctx hctx, earliest_none, hbegin]
    rw [hdeadline] at hbegin
    exact ⟨⟨_, rfl⟩, PoolReply.received_le hbegin⟩
  · let begun := { world with spans := "run_batch_in_transaction" :: world.spans }.begun time
    have hderived : (ctx.derive world.newTx).deadline = some deadline := hdeadline
    have hbody' : ReturnsBy _ ((batchBody pool callback (ctx.derive world.newTx) world.newTx).run
        none begun) := (keepsTo_batchBody pool hderived callback world.newTx).returnsBy begun
    obtain ⟨⟨result, hdone⟩, hleft⟩ := hbody'
    have hran := run_eq_of_done hdone
    cases result with
    | error cause => exact absurd ⟨hctx, time, hbegin, hran⟩ (hbody cause _)
    | ok _ =>
        obtain ⟨hending, hnow⟩ : _ ∧ _ := run_own_batch callback hctx hbegin
        rw [hran] at hending hnow
        have hbegun : time ≤ max world.now deadline := PoolReply.received_le (hdeadline ▸ hbegin)
        change _ ≤ max time deadline at hleft
        refine ReturnsBy.of_same ((keepsTo_finish_ok hderived ()).returnsBy _) hending hnow ?_
        omega

/-- A batch that fails in a transaction of its own goes on with its rollback. -/
theorem FailsInOwnTx.run
    {cause : Error}
    (hfails : FailsInOwnTx pool ctx callback world cause left) :
    let out :=
      (pool.driver.runBatchInTransaction ctx fun ctx => (callback ctx).run).run none world
    let finished := (pool.finish (ctx.derive world.newTx) world.newTx
      (.error cause : Except Error Unit)).run none left
    out.1 = finished.1 ∧ out.2.now = finished.2.now := by
  obtain ⟨hctx, time, hbegin, hbody⟩ := hfails
  have hrun := run_own_batch callback hctx hbegin
  dsimp only at hrun hbody
  rwa [hbody] at hrun

theorem FailsInOwnTx.mem_openTx
    {cause : Error}
    (hfails : FailsInOwnTx pool ctx callback world cause left) :
    world.newTx ∈ left.openTx := by
  obtain ⟨-, time, -, hbody⟩ := hfails
  have hgains := keeps_batchBody pool callback (ctx.derive world.newTx) world.newTx none
    ({ world with spans := "run_batch_in_transaction" :: world.spans }.begun time)
  rw [hbody] at hgains
  rw [hgains.openTx]
  exact List.mem_cons_self

/-- The body of a batch fails by the deadline, or at once. -/
theorem FailsInOwnTx.now_le
    {cause : Error}
    {deadline : Nat}
    (hdeadline : ctx.deadline = some deadline)
    (hfails : FailsInOwnTx pool ctx callback world cause left) :
    left.now ≤ max world.now deadline := by
  obtain ⟨-, time, hbegin, hbody⟩ := hfails
  rw [hdeadline] at hbegin
  have hbegun : time ≤ max world.now deadline := PoolReply.received_le hbegin
  have hderived : (ctx.derive world.newTx).deadline = some deadline := hdeadline
  obtain ⟨-, -, htime⟩ := keepsTo_batchBody pool hderived callback world.newTx none
    ({ world with spans := "run_batch_in_transaction" :: world.spans }.begun time)
  rw [hbody] at htime
  change left.now ≤ max time deadline at htime
  omega

/-- Batches return by the earliest deadline `d` that was set on the way down to them, whatever the
pool does. A batch outside of transactions, and one in a transaction without a rollback of its own,
return by then, or at once. One that failed at a time and has a rollback of its own to make returns
by the later of `d` and a second after the failure. A rollback that is answered by then decides what
is reported, the failure alone or both joined; only a later one is given up. -/
theorem calls_return_by_earliest_deadline
    (pool : AnyPool ρ)
    (chain : List Handing)
    (callback : Context → Callback ρ V)
    (world : World (List PoolEvent) (Cells V)) :
    let ctx := Context.ofChain chain
    let deadline := earliestDeadline chain
    let outside := (pool.driver.runBatch ctx fun ctx => (callback ctx).run).run none world
    let out :=
      (pool.driver.runBatchInTransaction ctx fun ctx => (callback ctx).run).run none world
    (∀ d ∈ deadline, ReturnsBy (max world.now d) outside) ∧
    ((∀ cause left, ¬ FailsInOwnTx pool ctx callback world cause left) →
      ∀ d ∈ deadline, ReturnsBy (max world.now d) out) ∧
    ∀ cause left, FailsInOwnTx pool ctx callback world cause left →
      (∀ d ∈ deadline, left.now ≤ max world.now d ∧ ReturnsBy (max d (left.now + 1000)) out ∧
        ReturnsBy (max world.now d + 1000) out) ∧
      (∀ ms answer,
        pool.plain left.driver left.now (.rollback world.newTx) = .after ms answer →
        (∀ d ∈ deadline, left.now + ms ≤ max d (left.now + 1000)) →
          out.1 = .done (.error (rollbackReport cause answer)) ∧ out.2.now = left.now + ms) ∧
      ∀ d ∈ deadline,
        (∀ ms answer, pool.plain left.driver left.now (.rollback world.newTx) = .after ms answer →
          max d (left.now + 1000) < left.now + ms) →
        out.1 = .done (.error (.rollback cause
          (.connection "deadline exceeded while waiting to roll back transaction"))) ∧
          out.2.now = max d (left.now + 1000) := by
  intro ctx deadline outside out
  have hdeadline : ctx.deadline = deadline := deadline_ofChain chain
  refine ⟨fun d hd => ?_, fun hbody d hd => ?_, fun cause left hfails => ?_⟩
  · exact (keepsTo_runBatch (hdeadline.trans hd) callback).returnsBy world
  · cases htx : ctx.tx with
    | none => exact own_batch_returns htx (hdeadline.trans hd) hbody
    | some tx =>
        exact (keepsTo_runBatchInTransaction (hdeadline.trans hd) callback htx).returnsBy world
  · obtain ⟨hending, hnow⟩ := hfails.run
    obtain ⟨htimely, hanswered, hgivenUp⟩ := rollback_returns Unit pool
      (ctx.derive world.newTx) hfails.mem_openTx cause
    refine ⟨fun d hd => ?_, fun ms answer hreply hin => ?_, fun d hd hlate => ?_⟩
    · have hleft := hfails.now_le (hdeadline.trans hd)
      have hreturns := htimely d (hdeadline.trans hd)
      exact ⟨hleft, hreturns.of_same hending hnow (Nat.le_refl _),
        hreturns.of_same hending hnow (by omega)⟩
    · rw [hending, hnow]
      exact hanswered ms answer hreply (hdeadline ▸ hin)
    · rw [hending, hnow]
      exact hgivenUp d (hdeadline.trans hd) hlate

end Calls

section Runs

/-- A pool that is lost: it fails to send after a while, and to roll back a second later. -/
def lostPool : AnyPool Unit where
  plain _ _ call :=
    match call with
    | .rollback _ => .after 1000 (.error (.connection "lost"))
    | _ => .after 0 (.ok ())
  rows _ _ _ := .after 200 (.error (.connection "reset"))

/-- The rollback is answered in the last moment, long after the deadline, and its answer counts. -/
theorem calls_return_with_late_rollback :
    let chain : List Handing := [.timeout 0 500, .deadline 300, .timeout 100 250]
    let out := (lostPool.driver.runBatchInTransaction (.ofChain chain)
      fun ctx => (countRows ctx).run).run none uncounted
    earliestDeadline chain = some 300 ∧
      ∃ left, FailsInOwnTx lostPool (.ofChain chain) countRows uncounted
        (.send (.connection "reset")) left ∧ left.now = 200 ∧
        out.1 = .done (.error (.rollback (.send (.connection "reset")) (.connection "lost"))) ∧
        out.2.now = 1200 := by
  intro chain out
  have hfails : FailsInOwnTx lostPool (.ofChain chain) countRows uncounted
      (.send (.connection "reset")) _ := ⟨rfl, 0, rfl, rfl⟩
  obtain ⟨-, -, hrollback⟩ :=
    calls_return_by_earliest_deadline lostPool chain countRows uncounted
  obtain ⟨-, hanswered, -⟩ := hrollback _ _ hfails
  exact ⟨by decide, _, hfails, rfl, hanswered 1000 _ rfl fun d hd => Nat.le_max_right d 1200⟩

end Runs

end QueryBatch
