import QueryBatch.Proofs.Batch.Program

/-!
# Who begins a transaction finishes it

`Program.Orderly` follows a run and says of every call in it what it may do to the pool. A batch
outside of transactions is at most one such send. A call with a transaction in its context sends
there or outside of transactions and does nothing else, at any depth. A call without one either
cannot begin a transaction and then does not run its body, or begins one, keeps to it, and lets
exactly one call to finish it reach the pool after everything else.

Every run of a program that keeps its hands off the handles is orderly, for every pool.
-/

namespace QueryBatch

variable {ρ S α : Type} {K : Type} {V : K → Type}

section Defs

/-- Sends outside of transactions, and their answers. -/
def PoolEvent.Outside : PoolEvent → Prop
  | .asked (.send _) | .answered (.send _) _ => True
  | _ => False

/-- Sends in one transaction, and their answers. -/
def PoolEvent.InTx (tx : Nat) : PoolEvent → Prop
  | .asked (.sendIn other _) | .answered (.sendIn other _) _ => other = tx
  | _ => False

/-- What may happen below the owner of a transaction. -/
def PoolEvent.Below (tx : Nat) (event : PoolEvent) : Prop := event.Outside ∨ event.InTx tx

/-- Between two worlds only some events happen, and no handle is opened or closed. -/
structure Gains (P : PoolEvent → Prop) (before after : World (List PoolEvent) S) : Prop where
  events : ∃ gained, after.driver = before.driver ++ gained ∧ ∀ event ∈ gained, P event
  openTx : after.openTx = before.openTx

/-- A call that finds no transaction in its context owns the one that it begins. If it cannot begin
one, the pool sees nothing more, the body is not run, and the call does not succeed. Otherwise what
happens in the body is below the new transaction, and what follows it is one call that finishes the
transaction: a commit if the body succeeded and a rollback if it failed. If the body is left
without a result, the transaction is let go. -/
def Owned (pool : AnyPool ρ) (ctx : Context)
    (body : Context → Nat → Work (List PoolEvent) S (Except Error α)) (cutoff : Option Nat)
    (world : World (List PoolEvent) S)
    (out : Ending (Except Error α) × World (List PoolEvent) S) : Prop :=
  match pool.acknowledged .begin (earliest ctx.deadline cutoff) world.driver world.now with
  | none =>
      out.1 = unanswered ctx.deadline cutoff .begin ∧
        out.2.driver = world.driver ++ [.asked .begin] ∧ out.2.store = world.store
  | some (_, .error e) =>
      out.1 = .done (.error (.begin e)) ∧
        out.2.driver = world.driver ++ [.asked .begin, .answered .begin (some e)] ∧
        out.2.store = world.store
  | some (time, .ok ()) =>
      let tx := world.newTx
      let left := (body (ctx.derive tx) tx).run cutoff (world.begun time)
      (∀ event ∈ world.driver, event.tx? ≠ some tx) ∧
      Gains (PoolEvent.Below tx) (world.begun time) left.2 ∧
      ∃ last, out.2.driver = left.2.driver ++ last ∧
        match left.1 with
        | .done (.ok _) => Exchanged (.commit tx) last ∧ finishCount tx out.2.driver = 1
        | .done (.error _) => Exchanged (.rollback tx) last ∧ finishCount tx out.2.driver = 1
        | .cut | .stuck => last = [.dropped tx] ∧ finishCount tx out.2.driver = 0

/-- The body of a batch in a transaction: fill it with a callback and send it through the
handle. -/
def batchBody [DecidableEq K] (pool : AnyPool ρ) (callback : Context → Callback ρ V) (ctx : Context)
    (tx : Nat) : Work (List PoolEvent) (Cells V) (Except Error Unit) := do
  match ← (callback ctx).run.fill with
  | .error e => return .error e
  | .ok batch => Driver.sendBatch ctx batch (pool.driver.sendThrough tx)

/-- A run of a program is orderly: every call in it does to the pool what it may. -/
def Program.Orderly [DecidableEq K] (pool : AnyPool ρ) :
    {α : Type} → Program False ρ V α → Context → Option Nat →
      World (List PoolEvent) (Cells V) → Prop
  | _, .ret _, _, _, _ => True
  | _, .look next, ctx, cutoff, world =>
      (next (View.of ctx world)).Orderly pool ctx cutoff world
  | _, .change f next, ctx, cutoff, world =>
      next.Orderly pool ctx cutoff { world with store := f world.store }
  | _, .pause none _, _, _, _ => True
  | _, .pause (some ms) next, ctx, cutoff, world =>
      ∀ left, (Work.sleep ms).run cutoff world = (.done (), left) →
        next.Orderly pool ctx cutoff left
  | _, .runBatch deadline callback next, ctx, cutoff, world =>
      let out := (pool.driver.runBatch (ctx.shorten deadline)
        fun ctx => (callback ctx).run).run cutoff world
      Gains PoolEvent.Outside world out.2 ∧
        ∀ result, out.1 = .done result → (next result).Orderly pool ctx cutoff out.2
  | _, .runBatchInTransaction deadline callback next, ctx, cutoff, world =>
      let out := (pool.driver.runBatchInTransaction (ctx.shorten deadline)
        fun ctx => (callback ctx).run).run cutoff world
      (match ctx.tx with
        | none => Owned pool (ctx.shorten deadline) (batchBody pool callback) cutoff
            { world with spans := "run_batch_in_transaction" :: world.spans } out
        | some tx => Gains (PoolEvent.InTx tx) world out.2) ∧
        ∀ result, out.1 = .done result → (next result).Orderly pool ctx cutoff out.2
  | _, .inTransaction deadline body next, ctx, cutoff, world =>
      let inner := ctx.shorten deadline
      let out := (pool.driver.inTransaction inner fun ctx => body.run pool ctx).run cutoff world
      (match ctx.tx with
        | none =>
            Owned pool inner (fun ctx _ => body.run pool ctx) cutoff world out ∧
              ∀ time, pool.acknowledged .begin (earliest inner.deadline cutoff) world.driver
                  world.now = some (time, .ok ()) →
                body.Orderly pool (inner.derive world.newTx) cutoff (world.begun time)
        | some tx =>
            Gains (PoolEvent.Below tx) world out.2 ∧ body.Orderly pool inner cutoff world) ∧
        ∀ result, out.1 = .done result → (next result).Orderly pool ctx cutoff out.2
  | _, .abandon limit part next, ctx, cutoff, world =>
      let out := (Work.giveUpAt limit (part.run pool ctx)).run cutoff world
      part.Orderly pool ctx (some (Work.earlier limit cutoff)) world ∧
        ∀ result, out.1 = .done result → (next result).Orderly pool ctx cutoff out.2
  | _, .send statements next, ctx, cutoff, world =>
      let out := (ctx.through fun tx => pool.driver.sendThrough tx statements).run cutoff world
      Gains (fun event => ∃ tx, ctx.tx = some tx ∧ event.InTx tx) world out.2 ∧
        ∀ answers, out.1 = .done answers → (next answers).Orderly pool ctx cutoff out.2
  | _, .commit granted .., _, _, _ => granted.elim
  | _, .rollback granted .., _, _, _ => granted.elim
  | _, .withTransaction granted .., _, _, _ => granted.elim
  | _, .under granted .., _, _, _ => granted.elim

end Defs

section Gaining

variable {P Q : PoolEvent → Prop}

theorem frame_gains :
    Frame (Gains P : World (List PoolEvent) S → World (List PoolEvent) S → Prop) where
  quiet hdriver hopen := ⟨⟨[], by simpa using hdriver, by simp⟩, hopen⟩
  trans hfirst hsecond := by
    obtain ⟨⟨gained, hdriver, hgained⟩, hopen⟩ := hfirst
    obtain ⟨⟨more, hmore, hall⟩, hleft⟩ := hsecond
    refine ⟨⟨gained ++ more, by rw [hmore, hdriver, List.append_assoc], ?_⟩, hleft.trans hopen⟩
    intro event hevent
    rcases List.mem_append.1 hevent with hin | hin
    · exact hgained event hin
    · exact hall event hin

theorem Gains.mono
    {before after : World (List PoolEvent) S}
    (hgains : Gains P before after)
    (hweaker : ∀ event, P event → Q event) :
    Gains Q before after := by
  obtain ⟨⟨gained, hdriver, hgained⟩, hopen⟩ := hgains
  exact ⟨⟨gained, hdriver, fun event hevent => hweaker event (hgained event hevent)⟩, hopen⟩

/-- A call that sends gains only itself and its answer. -/
theorem keeps_gains
    (pool : AnyPool ρ)
    {call : PoolCall}
    (hasked : P (.asked call))
    (hanswered : ∀ failure, P (.answered call failure)) :
    (pool.askRows call : Work (List PoolEvent) S _).Keeps (Gains P) := by
  apply keeps_askRows
  intro before after gained hexchanged hdriver hopen
  refine ⟨⟨gained, hdriver, ?_⟩, hopen⟩
  cases hexchanged with
  | unanswered => simpa using hasked
  | answered failure => simpa using ⟨hasked, hanswered failure⟩

theorem keeps_send
    (pool : AnyPool ρ)
    (statements : List Statement) :
    (pool.askRows (.send statements) : Work (List PoolEvent) S _).Keeps (Gains PoolEvent.Outside) :=
  keeps_gains pool trivial fun _ => trivial

theorem keeps_sendThrough
    (pool : AnyPool ρ)
    (tx : Nat)
    (statements : List Statement) :
    (pool.driver.sendThrough tx statements : Work (List PoolEvent) S _).Keeps
      (Gains (PoolEvent.InTx tx)) := by
  have hin : PoolEvent.InTx tx (.asked (.sendIn tx statements)) ∧
      ∀ failure, PoolEvent.InTx tx (.answered (.sendIn tx statements) failure) :=
    ⟨rfl, fun _ => rfl⟩
  intro cutoff world
  rw [run_sendThrough]
  split
  · exact keeps_gains pool hin.1 hin.2 cutoff world
  · exact frame_gains.quiet rfl rfl

end Gaining

section Nested

variable [DecidableEq K] {pool : AnyPool ρ}

/-- Below the owner of a transaction a program sends and does nothing else. -/
theorem Program.keeps_below
    (p : Program False ρ V α)
    {ctx : Context}
    {tx : Nat}
    (htx : ctx.tx = some tx) :
    (p.run pool ctx).Keeps (Gains (PoolEvent.Below tx)) := by
  have hsend : ∀ statements,
      (pool.askRows (.send statements) : Work (List PoolEvent) (Cells V) _).Keeps
        (Gains (PoolEvent.Below tx)) :=
    fun statements cutoff world =>
      (keeps_send pool statements cutoff world).mono fun _ => Or.inl
  have hthrough : ∀ statements,
      (pool.driver.sendThrough tx statements : Work (List PoolEvent) (Cells V) _).Keeps
        (Gains (PoolEvent.Below tx)) :=
    fun statements cutoff world =>
      (keeps_sendThrough pool tx statements cutoff world).mono fun _ => Or.inr
  -- every context below carries the owner's handle, so nobody below owns a transaction
  induction p generalizing ctx with
  | ret result => exact Work.keeps_pure frame_gains _
  | look next ih =>
      exact Work.keeps_bind frame_gains (Work.keeps_look frame_gains _) fun view => ih view htx
  | change f next ih =>
      exact Work.keeps_bind frame_gains (fun _ _ => frame_gains.quiet rfl rfl) fun _ => ih htx
  | pause ms next ih =>
      cases ms with
      | none => exact keeps_never frame_gains
      | some ms => exact Work.keeps_bind frame_gains (keeps_sleep frame_gains ms) fun _ => ih htx
  | runBatch deadline callback next ih =>
      apply Work.keeps_bind frame_gains
      · exact keeps_runBatch frame_gains callback hsend
      · exact fun result => ih result htx
  | runBatchInTransaction deadline callback next ih =>
      apply Work.keeps_bind frame_gains
      · exact keeps_runBatchInTransaction frame_gains callback
          ((ctx.tx_shorten deadline).trans htx) hthrough
      · exact fun result => ih result htx
  | inTransaction deadline body next ihBody ihNext =>
      have hinner : (ctx.shorten deadline).tx = some tx := (ctx.tx_shorten deadline).trans htx
      apply Work.keeps_bind frame_gains
      · unfold Driver.inTransaction
        rw [transact_nested pool _ hinner]
        exact ihBody hinner
      · exact fun result => ihNext result htx
  | abandon limit part next ihPart ihNext =>
      apply Work.keeps_bind frame_gains
      · exact Work.keeps_giveUpAt (ihPart htx) limit
      · exact fun result => ihNext result htx
  | send statements next ih =>
      apply Work.keeps_bind frame_gains
      · apply Context.keeps_through frame_gains
        intro other hother
        obtain rfl : tx = other := Option.some.inj (htx.symm.trans hother)
        exact hthrough statements
      · exact fun answers => ih answers htx
  | commit granted => exact granted.elim
  | rollback granted => exact granted.elim
  | withTransaction granted => exact granted.elim
  | under granted => exact granted.elim

end Nested

section Counting

variable {tx : Nat}

/-- Below an owner nothing is finished. -/
theorem PoolEvent.Below.not_finishes
    {event : PoolEvent}
    {owner : Nat}
    (hbelow : event.Below owner) :
    event.finishes tx = false := by
  rcases event with call | ⟨call, failure⟩ | other | other
  · cases call with
    | commit other => rcases hbelow with h | h <;> cases h
    | rollback other => rcases hbelow with h | h <;> cases h
    | _ => rfl
  · rfl
  · rfl
  · rfl

/-- Up to the end of the body of its owner, a new transaction is not finished. -/
theorem finishCount_below
    {world left : World (List PoolEvent) S}
    {time : Nat}
    (hgains : Gains (PoolEvent.Below world.newTx) (world.begun time) left) :
    finishCount world.newTx left.driver = 0 := by
  obtain ⟨⟨gained, hdriver, hgained⟩, -⟩ := hgains
  have hinner : finishCount world.newTx gained = 0 :=
    finishCount_eq_zero fun event hevent => (hgained event hevent).not_finishes
  rw [hdriver, finishCount_append, World.finishCount_begun, hinner]

end Counting

section Owners

variable {pool : AnyPool ρ} {ctx : Context} {cutoff : Option Nat} {world : World (List PoolEvent) S}

/-- After a body with a result its owner lets one finishing call through, and nothing is left to
drop. -/
theorem finish_once
    (pool : AnyPool ρ)
    (ctx : Context)
    (cutoff : Option Nat)
    {tx : Nat}
    {left : World (List PoolEvent) S}
    (hopen : tx ∈ left.openTx)
    (hcount : finishCount tx left.driver = 0)
    (result : Except Error α) :
    ∃ last, Exchanged (finishing tx result) last ∧
      (pool.driver.dropHandle tx ((pool.finish ctx tx result).run cutoff left).2).driver
        = left.driver ++ last ∧
      finishCount tx (left.driver ++ last) = 1 := by
  have hfinished := finish_finished pool ctx tx result cutoff left
  obtain ⟨last, hexchanged, hdriver⟩ := hfinished.asked hopen
  have hclosed : tx ∉ ((pool.finish ctx tx result).run cutoff left).2.openTx := by
    rw [hfinished.openTx]
    simp
  refine ⟨last, hexchanged, ?_, ?_⟩
  · rw [dropHandle_eq, if_neg hclosed, hdriver]
  · rw [finishCount_append, hcount, finishCount_exchanged hexchanged]
    cases result <;> simp [finishing, PoolEvent.finishes]

/-- What is left without a result is let go unfinished. -/
theorem drop_unfinished
    (pool : AnyPool ρ)
    {tx : Nat}
    {left : World (List PoolEvent) S}
    (hopen : tx ∈ left.openTx)
    (hcount : finishCount tx left.driver = 0) :
    (pool.driver.dropHandle tx left).driver = left.driver ++ [.dropped tx] ∧
      finishCount tx (left.driver ++ [.dropped tx]) = 0 := by
  rw [dropHandle_eq, if_pos hopen, finishCount_append, hcount]
  exact ⟨rfl, rfl⟩

/-- A call without a transaction in its context owns the one that it begins, if its body keeps below
it. -/
theorem transact_owned
    (hctx : ctx.tx = none)
    {body : Context → Nat → Work (List PoolEvent) S (Except Error α)}
    (hbody : ∀ tx, (body (ctx.derive tx) tx).Keeps (Gains (PoolEvent.Below tx))) :
    Owned pool ctx body cutoff world ((pool.driver.transact ctx body).run cutoff world) := by
  rw [run_transact pool ctx hctx, run_withTransaction pool ctx hctx]
  unfold Owned
  rcases pool.acknowledged .begin (earliest ctx.deadline cutoff) world.driver world.now
    with _ | ⟨time, e | ⟨⟩⟩
  · exact ⟨rfl, rfl, rfl⟩
  · exact ⟨rfl, rfl, rfl⟩
  · have hgains := hbody world.newTx cutoff (world.begun time)
    refine ⟨fun event hevent => World.tx?_ne_newTx hevent, hgains, ?_⟩
    simp only [Work.run_bind]
    have hcount := finishCount_below hgains
    have hopen : world.newTx ∈
        ((body (ctx.derive world.newTx) world.newTx).run cutoff (world.begun time)).2.openTx := by
      rw [hgains.openTx]
      exact List.mem_cons_self
    -- how the body came to where it left no longer matters
    generalize (body (ctx.derive world.newTx) world.newTx).run cutoff (world.begun time) = out
      at hcount hopen ⊢
    rcases out with ⟨result | _ | _, left⟩
    · rw [Ending.andThen_done]
      obtain ⟨last, hexchanged, hdriver, honce⟩ :=
        finish_once pool (ctx.derive world.newTx) cutoff hopen hcount result
      refine ⟨last, hdriver, ?_⟩
      rw [hdriver]
      cases result with
      | ok a => exact ⟨hexchanged, honce⟩
      | error cause => exact ⟨hexchanged, honce⟩
    · obtain ⟨hdriver, hnone⟩ := drop_unfinished pool hopen hcount
      refine ⟨_, hdriver, rfl, ?_⟩
      rw [Ending.andThen_cut, hdriver]
      exact hnone
    · obtain ⟨hdriver, hnone⟩ := drop_unfinished pool hopen hcount
      refine ⟨_, hdriver, rfl, ?_⟩
      rw [Ending.andThen_stuck, hdriver]
      exact hnone

end Owners

section Runs

variable [DecidableEq K] (pool : AnyPool ρ)

theorem runBatchInTransaction_eq
    (ctx : Context)
    (callback : Context → Callback ρ V) :
    (pool.driver.runBatchInTransaction ctx fun ctx => (callback ctx).run)
      = Work.inSpan "run_batch_in_transaction"
          (pool.driver.transact ctx (batchBody pool callback)) := by
  unfold Driver.runBatchInTransaction
  refine congrArg (fun body => Work.inSpan _ (pool.driver.transact ctx body)) ?_
  funext ctx tx
  unfold batchBody
  refine congrArg (fun next => (callback ctx).run.fill >>= next) ?_
  funext filled
  cases filled <;> rfl

theorem runBatchInTransaction_owned
    {ctx : Context}
    (hctx : ctx.tx = none)
    (callback : Context → Callback ρ V)
    (cutoff : Option Nat)
    (world : World (List PoolEvent) (Cells V)) :
    Owned pool ctx (batchBody pool callback) cutoff
      { world with spans := "run_batch_in_transaction" :: world.spans }
      ((pool.driver.runBatchInTransaction ctx fun ctx => (callback ctx).run).run cutoff world) := by
  have hbody : ∀ tx, (batchBody pool callback (ctx.derive tx) tx).Keeps
      (Gains (PoolEvent.Below tx)) := by
    intro tx
    apply keeps_batch frame_gains (callback (ctx.derive tx)) _ (fun _ => rfl) (fun _ => rfl)
    exact fun statements cutoff world =>
      (keeps_sendThrough pool tx statements cutoff world).mono fun _ => Or.inr
  rw [runBatchInTransaction_eq, Work.run_inSpan]
  have howned : Owned pool ctx (batchBody pool callback) cutoff
      { world with spans := "run_batch_in_transaction" :: world.spans } _ :=
    transact_owned hctx hbody
  unfold Owned at howned ⊢
  exact howned

/-- Every run is orderly, with a transaction in the context or without one. -/
theorem Program.orderly
    (p : Program False ρ V α)
    (ctx : Context)
    (cutoff : Option Nat)
    (world : World (List PoolEvent) (Cells V)) :
    p.Orderly pool ctx cutoff world := by
  induction p generalizing ctx cutoff world with
  | ret result => trivial
  | look next ih => exact ih _ ctx cutoff world
  | change f next ih => exact ih ctx cutoff _
  | pause ms next ih =>
      cases ms with
      | none => trivial
      | some ms => exact fun left _ => ih ctx cutoff left
  | runBatch deadline callback next ih =>
      refine ⟨?_, fun result _ => ih result ctx cutoff _⟩
      exact keeps_runBatch frame_gains callback (keeps_send pool) cutoff world
  | runBatchInTransaction deadline callback next ih =>
      refine ⟨?_, fun result _ => ih result ctx cutoff _⟩
      cases htx : ctx.tx with
      | none =>
          exact runBatchInTransaction_owned pool ((ctx.tx_shorten deadline).trans htx) callback
            cutoff world
      | some tx =>
          exact keeps_runBatchInTransaction frame_gains callback
            ((ctx.tx_shorten deadline).trans htx) (keeps_sendThrough pool tx) cutoff world
  | inTransaction deadline body next ihBody ihNext =>
      refine ⟨?_, fun result _ => ihNext result ctx cutoff _⟩
      cases htx : ctx.tx with
      | none =>
          have hinner : (ctx.shorten deadline).tx = none := (ctx.tx_shorten deadline).trans htx
          refine ⟨transact_owned hinner fun tx => ?_, fun time _ => ihBody _ cutoff _⟩
          exact body.keeps_below (Context.tx_derive _ tx)
      | some tx =>
          have hinner : (ctx.shorten deadline).tx = some tx :=
            (ctx.tx_shorten deadline).trans htx
          refine ⟨?_, ihBody _ cutoff world⟩
          have hbelow : (body.run pool (ctx.shorten deadline)).Keeps (Gains (PoolEvent.Below tx)) :=
            body.keeps_below hinner
          unfold Driver.inTransaction
          rw [transact_nested pool _ hinner]
          exact hbelow cutoff world
  | abandon limit part next ihPart ihNext =>
      exact ⟨ihPart ctx _ world, fun result _ => ihNext result ctx cutoff _⟩
  | send statements next ih =>
      refine ⟨?_, fun answers _ => ih answers ctx cutoff _⟩
      apply Context.keeps_through frame_gains
      intro tx htx cutoff world
      exact (keeps_sendThrough pool tx statements cutoff world).mono fun _ hin => ⟨tx, htx, hin⟩
  | commit granted => exact granted.elim
  | rollback granted => exact granted.elim
  | withTransaction granted => exact granted.elim
  | under granted => exact granted.elim

/-- Programs that start without a transaction and keep their hands off the handles run orderly, for
every pool, every deadline and cut-off, and from every world. -/
theorem outermost_calls_own_their_transactions
    (p : Program False ρ V α)
    (deadline cutoff : Option Nat)
    (world : World (List PoolEvent) (Cells V)) :
    p.Orderly pool { deadline := deadline } cutoff world :=
  p.orderly pool { deadline := deadline } cutoff world

end Runs
end QueryBatch
