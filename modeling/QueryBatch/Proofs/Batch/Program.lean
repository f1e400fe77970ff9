import QueryBatch.Proofs.Batch.Callback
import QueryBatch.Proofs.Batch.Transactions

/-!
# Programs that run batches and transactions

A `Program` is any finite piece of code between calls to the batch layer. It sees its context, the
time and the caller's cells, waits, changes cells, and makes calls one after the other, each of
which may have an earlier deadline than its context. What a call returns, an error too, is handed
to the rest of the program. The body of a transaction is a program too, and so is what a program
gives up waiting for.

A program sends through the handle in its context too. Programs for which `free` holds may do more:
they finish transactions that they do not own, use `withTransaction` themselves, and run parts of
themselves with contexts that they got from elsewhere.
-/

namespace QueryBatch

/-- What a program sees: its context, whether the handle there is closed, the time and the cells. -/
structure View {K : Type} (V : K → Type) where
  ctx : Context
  closed : Bool
  now : Nat
  cells : Cells V

inductive Program (free : Prop) (ρ : Type) {K : Type} (V : K → Type) : Type → Type 1
  | ret {α : Type} (result : Except Error α) : Program free ρ V α
  | look {α : Type} (next : View V → Program free ρ V α) : Program free ρ V α
  | change {α : Type} (f : Cells V → Cells V) (next : Program free ρ V α) : Program free ρ V α
  /-- Wait so many milliseconds, or for ever. -/
  | pause {α : Type} (ms : Option Nat) (next : Program free ρ V α) : Program free ρ V α
  | runBatch {α : Type} (deadline : Option Nat) (callback : Context → Callback ρ V)
      (next : Except Error Unit → Program free ρ V α) : Program free ρ V α
  | runBatchInTransaction {α : Type} (deadline : Option Nat) (callback : Context → Callback ρ V)
      (next : Except Error Unit → Program free ρ V α) : Program free ρ V α
  | inTransaction {α β : Type} (deadline : Option Nat) (body : Program free ρ V β)
      (next : Except Error β → Program free ρ V α) : Program free ρ V α
  | abandon {α β : Type} (limit : Nat) (part : Program free ρ V β)
      (next : Option (Except Error β) → Program free ρ V α) : Program free ρ V α
  | send {α : Type} (statements : List Statement)
      (next : Answers ρ → Program free ρ V α) : Program free ρ V α
  | commit {α : Type} (granted : free)
      (next : Except DriverError Unit → Program free ρ V α) : Program free ρ V α
  | rollback {α : Type} (granted : free)
      (next : Except DriverError Unit → Program free ρ V α) : Program free ρ V α
  | withTransaction {α β : Type} (granted : free) (deadline : Option Nat)
      (body : Program free ρ V β) (next : Except Error β → Program free ρ V α) :
      Program free ρ V α
  | under {α β : Type} (granted : free) (ctx : Context) (part : Program free ρ V β)
      (next : Except Error β → Program free ρ V α) : Program free ρ V α

variable {free : Prop} {ρ : Type} {K : Type} {V : K → Type} [DecidableEq K]

section Defs

/-- A context with an earlier deadline, if one is given. -/
def Context.shorten (ctx : Context) : Option Nat → Context
  | none => ctx
  | some deadline => ctx.withDeadline deadline

/-- What is seen with a context in a world. -/
def View.of {σ : Type} (ctx : Context) (world : World σ (Cells V)) : View V where
  ctx := ctx
  closed := ctx.tx.any fun tx => !world.openTx.contains tx
  now := world.now
  cells := world.store

/-- An operation through the handle that a context carries. -/
def Context.through {σ S β : Type} (ctx : Context)
    (operation : Nat → Work σ S (Except DriverError β)) : Work σ S (Except DriverError β) :=
  match ctx.tx with
  | none => return .error .txClosed
  | some tx => operation tx

/-- Run a program on a pool with a context. -/
def Program.run (pool : AnyPool ρ) : {α : Type} → Program free ρ V α → Context →
    Work (List PoolEvent) (Cells V) (Except Error α)
  | _, .ret result, _ => return result
  | _, .look next, ctx => do
      let view ← Work.look (View.of ctx)
      (next view).run pool ctx
  | _, .change f next, ctx => do
      Work.changeStore f
      next.run pool ctx
  | _, .pause none _, _ => Work.never
  | _, .pause (some ms) next, ctx => do
      Work.sleep ms
      next.run pool ctx
  | _, .runBatch deadline callback next, ctx => do
      let result ← pool.driver.runBatch (ctx.shorten deadline) fun ctx => (callback ctx).run
      (next result).run pool ctx
  | _, .runBatchInTransaction deadline callback next, ctx => do
      let result ← pool.driver.runBatchInTransaction (ctx.shorten deadline)
        fun ctx => (callback ctx).run
      (next result).run pool ctx
  | _, .inTransaction deadline body next, ctx => do
      let result ← pool.driver.inTransaction (ctx.shorten deadline) fun ctx => body.run pool ctx
      (next result).run pool ctx
  | _, .abandon limit part next, ctx => do
      let result ← Work.giveUpAt limit (part.run pool ctx)
      (next result).run pool ctx
  | _, .send statements next, ctx => do
      let answers ← ctx.through fun tx => pool.driver.sendThrough tx statements
      (next answers).run pool ctx
  | _, .commit _ next, ctx => do
      let answer ← ctx.through pool.driver.commitThrough
      (next answer).run pool ctx
  | _, .rollback _ next, ctx => do
      let answer ← ctx.through pool.driver.rollbackThrough
      (next answer).run pool ctx
  | _, .withTransaction _ deadline body next, ctx => do
      let result ← pool.driver.withTransaction (ctx.shorten deadline)
        fun _ ctx => body.run pool ctx
      (next result).run pool ctx
  | _, .under _ other part next, ctx => do
      let result ← part.run pool other
      (next result).run pool ctx

end Defs

section Contexts

theorem Context.tx_derive
    (ctx : Context)
    (tx : Nat) :
    (ctx.derive tx).tx = some tx :=
  rfl

@[simp]
theorem Context.tx_shorten
    (ctx : Context)
    (deadline : Option Nat) :
    (ctx.shorten deadline).tx = ctx.tx := by
  cases deadline <;> rfl

end Contexts

section Keeping

variable {pool : AnyPool ρ} {ctx : Context}
variable {R : World (List PoolEvent) (Cells V) → World (List PoolEvent) (Cells V) → Prop}

omit [DecidableEq K] in
/-- An operation through the handle in a context keeps what it keeps on that transaction. -/
theorem Context.keeps_through
    {β : Type}
    (hframe : Frame R)
    {operation : Nat → Work (List PoolEvent) (Cells V) (Except DriverError β)}
    (hoperation : ∀ tx, ctx.tx = some tx → (operation tx).Keeps R) :
    (ctx.through operation).Keeps R := by
  unfold Context.through
  cases htx : ctx.tx with
  | none => exact Work.keeps_pure hframe _
  | some tx => exact hoperation tx htx

theorem keeps_fill
    (hframe : Frame R)
    (callback : Callback ρ V) :
    (callback.run.fill).Keeps R := by
  intro cutoff world
  obtain ⟨entries, notes, -, hrun⟩ := callback.run_fill cutoff world
  rw [hrun]
  exact hframe.quiet rfl rfl

/-- Filling a batch and sending it keeps what the sending of statements keeps. -/
theorem keeps_batch
    (hframe : Frame R)
    (callback : Callback ρ V)
    {send : List Statement → Work (List PoolEvent) (Cells V) (Answers ρ)}
    (hsend : ∀ statements, (send statements).Keeps R)
    {next : Except Error (Batch ρ (Cells V)) → Work (List PoolEvent) (Cells V) (Except Error Unit)}
    (herror : ∀ e, next (.error e) = pure (.error e))
    (hok : ∀ batch, next (.ok batch) = Driver.sendBatch ctx batch send) :
    (callback.run.fill >>= next).Keeps R := by
  apply Work.keeps_bind hframe (keeps_fill hframe callback)
  rintro (e | batch)
  · rw [herror]
    exact Work.keeps_pure hframe _
  · rw [hok]
    exact keeps_sendBatch ctx hframe batch hsend

theorem keeps_runBatch
    (hframe : Frame R)
    (callback : Context → Callback ρ V)
    (hsend : ∀ statements, (pool.askRows (.send statements) : Work _ (Cells V) _).Keeps R) :
    (pool.driver.runBatch ctx fun ctx => (callback ctx).run).Keeps R := by
  unfold Driver.runBatch
  apply Work.keeps_inSpan hframe
  exact keeps_batch hframe (callback ctx) hsend (fun _ => rfl) (fun _ => rfl)

/-- A batch in the transaction of its context keeps what the sending there keeps. -/
theorem keeps_runBatchInTransaction
    (hframe : Frame R)
    (callback : Context → Callback ρ V)
    {tx : Nat}
    (htx : ctx.tx = some tx)
    (hsend : ∀ statements,
      (pool.driver.sendThrough tx statements : Work _ (Cells V) _).Keeps R) :
    (pool.driver.runBatchInTransaction ctx fun ctx => (callback ctx).run).Keeps R := by
  unfold Driver.runBatchInTransaction
  rw [transact_nested pool ctx htx]
  apply Work.keeps_inSpan hframe
  exact keeps_batch hframe (callback ctx) hsend (fun _ => rfl) (fun _ => rfl)

end Keeping
end QueryBatch
