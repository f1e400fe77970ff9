import QueryBatch.Proofs.Batch.Program
import QueryBatch.Proofs.Batch.Resolution
import QueryBatch.Proofs.Postgres.Transactions

/-!
# Bodies that run batches in a transaction

A `Body` is given a context with a transaction and runs any number of batches in it, one after the
other. It sees what each returns and may go on after an error. What a server commits of it depends
on every statement of the block, though: one refusal undoes them all, and the owner's `COMMIT` is
then answered without an error.
-/

namespace QueryBatch
namespace Postgres

variable {K : Type} {V : K → Type} {α : Type}

/-- A body of a transaction. -/
inductive Body {K : Type} (V : K → Type) (α : Type) : Type 1
  | ret (result : Except Error α)
  | look (next : View V → Body V α)
  | change (f : Cells V → Cells V) (next : Body V α)
  /-- Wait so many milliseconds, or for ever. -/
  | pause (ms : Option Nat) (next : Body V α)
  /-- Run a batch in the transaction, with an earlier deadline if one is given. -/
  | run (deadline : Option Nat) (callback : Context → Callback Row V)
      (next : Except Error Unit → Body V α)

variable [DecidableEq K]

section Defs

/-- Run a body. With its own result it answers the texts of the statements of all calls that
returned without an error. -/
def Body.work (d : Driver (State Wire) Row) :
    Body V α → Context → List String → Work (State Wire) (Cells V) (Except Error (α × List String))
  | .ret result, _, kept => return (·, kept) <$> result
  | .look next, ctx, kept => do
      let view ← Work.look (View.of ctx)
      (next view).work d ctx kept
  | .change f next, ctx, kept => do
      Work.changeStore f
      next.work d ctx kept
  | .pause none _, _, _ => Work.never
  | .pause (some ms) next, ctx, kept => do
      Work.sleep ms
      next.work d ctx kept
  | .run deadline callback next, ctx, kept => do
      let queued ← Work.look fun world =>
        texts ((callback (ctx.shorten deadline)).outcome world.now world.store).statements
      let result ← d.runBatchInTransaction (ctx.shorten deadline) fun ctx => (callback ctx).run
      (next result).work d ctx (if result.isOk then kept ++ queued else kept)

end Defs

section Batches

variable {opening : Opening} {kept : List String} {others : List Stake}
variable {world : World (State Wire) (Cells V)} {cutoff : Option Nat} {ctx : Context}

/-- A batch in a transaction that is under way leaves it so, and if it returns without an error then
all its statements were accepted. -/
theorem ends_runBatchInTransaction
    (hctx : ctx.tx = some opening.tx)
    (callback : Context → Callback Row V)
    (hunder : Underway opening kept others world) :
    Ends (fun result left => Underway opening
        (if result.isOk then
          kept ++ texts ((callback ctx).outcome world.now world.store).statements else kept)
          others left)
      (Underway opening kept others)
      ((Wire.network.driver.runBatchInTransaction ctx fun ctx => (callback ctx).run).run cutoff
        world) := by
  have hnested : ∀ body : Context → Nat → Work (State Wire) (Cells V) (Except Error Unit),
      Wire.network.driver.transact ctx body = body ctx opening.tx := by
    intro body
    unfold Driver.transact
    rw [hctx]
  let entered : World (State Wire) (Cells V) :=
    { world with spans := "run_batch_in_transaction" :: world.spans }
  obtain ⟨entries, notes, hserved, hfill⟩ := (callback ctx).run_fill cutoff entered
  unfold Driver.runBatchInTransaction
  apply ends_inSpan
  rw [hnested]
  have hentered : Underway opening kept others entered := hunder.of_driver rfl rfl
  refine (ends_filled ctx hfill rfl rfl (fun _ => rfl) (fun _ => rfl) hentered).imp ?_ ?_
  · rintro (e | _) left ⟨hleft, hall, herror⟩
    · exact hleft.of_driver rfl rfl
    · cases hresult : ((callback ctx).outcome entered.now entered.store).result with
      | error e =>
          obtain ⟨_, -, hfailed⟩ := herror (by rw [hresult]; rfl)
          cases hfailed
      | ok _ =>
          have hstatements := Queued.statements_eq hserved
          have hlast := hall (fun _ h => (nomatch h)) ⟨entries, true⟩ (by rw [hresult]; rfl)
          rw [Batch.statements, hstatements] at hlast
          exact hlast.of_driver rfl rfl
  · exact fun left hleft => hleft.of_driver rfl rfl

/-- Whatever a body does, its transaction stays under way with what was accepted in it before, and
what the body reports of its calls was accepted after that. -/
theorem Body.ends_work_after
    (body : Body V α)
    (before : List String)
    (hctx : ctx.tx = some opening.tx)
    (hunder : Underway opening (before ++ kept) others world) :
    Ends (fun result left => ∃ more,
        (∀ a reported, result = .ok (a, reported) → reported = kept ++ more) ∧
          Underway opening (before ++ (kept ++ more)) others left)
      (fun _ => True) ((body.work Wire.network.driver ctx kept).run cutoff world) := by
  induction body generalizing kept world with
  | ret result =>
      refine ⟨[], fun a reported hresult => ?_, by rwa [List.append_nil]⟩
      cases result with
      | error e => cases hresult
      | ok b => rw [List.append_nil, ← (Prod.mk.inj (Except.ok.inj hresult)).2]
  | look next ih =>
      apply ends_bind
      rw [Work.run_look, ends_done]
      exact ih _ hunder
  | change f next ih =>
      apply ends_bind
      rw [Work.run_changeStore, ends_done]
      exact ih (hunder.of_driver rfl rfl)
  | pause ms next ih =>
      cases ms with
      | none => exact ends_never fun _ => trivial
      | some ms =>
          apply ends_bind
          exact ends_sleep (fun _ => ih (hunder.of_driver rfl rfl)) (fun _ => trivial)
  | run deadline callback next ih =>
      have hshortened : (ctx.shorten deadline).tx = some opening.tx := by
        rw [Context.tx_shorten, hctx]
      apply ends_bind
      rw [Work.run_look, ends_done]
      apply ends_bind
      refine (ends_runBatchInTransaction hshortened callback hunder).imp ?_ (fun _ _ => trivial)
      rintro (e | _) left hleft
      · exact ih (.error e) hleft
      · let queued :=
          texts ((callback (ctx.shorten deadline)).outcome world.now world.store).statements
        have hqueued : Underway opening (before ++ (kept ++ queued)) others left := by
          rw [← List.append_assoc]
          exact hleft
        refine (ih (.ok ()) hqueued).imp ?_ (fun _ _ => trivial)
        rintro result later ⟨more, hreported, hlater⟩
        refine ⟨queued ++ more, fun a reported hresult => ?_, ?_⟩
        · rw [hreported a reported hresult, List.append_assoc]
        · rwa [← List.append_assoc kept]

/-- Whatever a body does, its transaction stays under way, and what it reports of its calls was
accepted. -/
theorem Body.ends_work
    (body : Body V α)
    (hctx : ctx.tx = some opening.tx)
    (hunder : Underway opening kept others world) :
    Ends (fun result left => ∃ kept,
        (∀ a reported, result = .ok (a, reported) → reported = kept) ∧
          Underway opening kept others left)
      (fun _ => True) ((body.work Wire.network.driver ctx kept).run cutoff world) := by
  refine (body.ends_work_after [] hctx hunder).imp ?_ (fun _ _ => trivial)
  rintro result left ⟨more, hreported, hleft⟩
  exact ⟨kept ++ more, hreported, hleft⟩

end Batches

section Owners

variable {ctx : Context} {cutoff : Option Nat} {world left : World (State Wire) (Cells V)}

/-- If an owner returns without an error, its commit was accepted, on a line of a pool in any state
that it can come to. The statements of all calls of the body that returned without an error were
accepted in the block. If the server refused none of the block, its effects are committed in order;
otherwise nothing of it is. -/
theorem in_transaction_ok_commits_unless_refused
    (hreached : Reached world.driver)
    (hctx : ctx.tx = none)
    (body : Body V α)
    {a : α}
    {reported : List String}
    (hrun : (Wire.network.driver.inTransaction ctx fun ctx =>
        body.work Wire.network.driver ctx []).run cutoff world
      = (.done (.ok (a, reported)), left)) :
    ∃ connection start block,
      (world.driver.network.line connection).Grows [] start ∧ start.Quiet ∧
      start.Ended reported block "COMMIT" (left.driver.network.line connection) ∧
      (left.driver.network.line connection).session.committed
        = start.session.committed ++ if block.all Ran.accepted then effects block else [] := by
  obtain ⟨stakes, hsound⟩ := hreached.sound
  have hends := (ends_transact (fun ctx _ => body.work Wire.network.driver ctx []) hctx hsound
    fun opening _ hunder => body.ends_work (Context.tx_derive ctx opening.tx) hunder).of_done hrun
  cases hends with
  | @committed _ opening kept hlines hknown hconcluded =>
      obtain rfl := hknown a reported rfl
      obtain ⟨block, hended⟩ := hconcluded.block
      refine ⟨opening.live.connection, opening.start, block, ?_, opening.quiet, hended,
        hended.committed⟩
      rw [← hlines]
      exact opening.before

end Owners

section Runs

/-- Cells of a caller that has none. -/
abbrev NoCells : Empty → Type := fun _ => Unit

/-- Run statements for their effect, one batch for each, and succeed whatever they return. -/
def heedless : List String → Body NoCells Unit
  | [] => .ret (.ok ())
  | text :: rest =>
      .run none
        (fun _ => .queue (.exec ⟨text, .none, (none : Option (Decoder Row Unit)), .exec⟩ none)
          fun result => .finish result)
        fun _ => heedless rest

/-- A server that accepts two statements. -/
def acceptedBlock : World (State Wire) (Cells NoCells) :=
  fresh nofun [none, none, some (.accepted {}), some (.accepted {}), some (.accepted {}),
    some (.accepted {})]

theorem in_transaction_ok_commits_after_acceptance :
    Reached acceptedBlock.driver ∧ Context.empty.tx = none ∧
      ∃ left, (Wire.network.driver.inTransaction .empty fun ctx =>
          (heedless ["INSERT INTO a", "INSERT INTO b"]).work Wire.network.driver ctx []).run none
          acceptedBlock = (.done (.ok ((), ["INSERT INTO a", "INSERT INTO b"])), left) ∧
        ∃ connection start block,
          (acceptedBlock.driver.network.line connection).Grows [] start ∧ start.Quiet ∧
          start.Ended ["INSERT INTO a", "INSERT INTO b"] block "COMMIT"
            (left.driver.network.line connection) ∧
          (left.driver.network.line connection).session.committed
            = start.session.committed ++ if block.all Ran.accepted then effects block else [] := by
  have hreached : Reached acceptedBlock.driver := reached_fresh _ _
  have hdone : ((Wire.network.driver.inTransaction .empty fun ctx =>
      (heedless ["INSERT INTO a", "INSERT INTO b"]).work Wire.network.driver ctx []).run none
      acceptedBlock).1 = .done (.ok ((), ["INSERT INTO a", "INSERT INTO b"])) := by
    decide +kernel
  have hrun := run_eq_of_done hdone
  exact ⟨hreached, rfl, _, hrun, in_transaction_ok_commits_unless_refused hreached rfl _ hrun⟩

/-- A server that accepts the first of two statements and refuses the second. -/
def refusedBlock : World (State Wire) (Cells NoCells) :=
  fresh nofun [none, none, some (.accepted {}), some (.accepted {}), some .refused,
    some (.accepted {})]

/-- If a body goes on after a refusal, the owner succeeds and so did the first call, but nothing is
committed. -/
theorem in_transaction_ok_after_refusal :
    Reached refusedBlock.driver ∧
      ∃ left, (Wire.network.driver.inTransaction .empty fun ctx =>
          (heedless ["INSERT INTO a", "INSERT INTO b"]).work Wire.network.driver ctx []).run none
          refusedBlock = (.done (.ok ((), ["INSERT INTO a"])), left) ∧
        left.driver.network.opened = 1 ∧
        (left.driver.network.line 0).session = { block := .none, committed := [] } := by
  have hdone : ((Wire.network.driver.inTransaction .empty fun ctx =>
      (heedless ["INSERT INTO a", "INSERT INTO b"]).work Wire.network.driver ctx []).run none
      refusedBlock).1 = .done (.ok ((), ["INSERT INTO a"])) := by
    decide +kernel
  have hsession : (((Wire.network.driver.inTransaction .empty fun ctx =>
      (heedless ["INSERT INTO a", "INSERT INTO b"]).work Wire.network.driver ctx []).run none
      refusedBlock).2.driver.network.line 0).session = { block := .none, committed := [] } := by
    decide +kernel
  have hopened : ((Wire.network.driver.inTransaction .empty fun ctx =>
      (heedless ["INSERT INTO a", "INSERT INTO b"]).work Wire.network.driver ctx []).run none
      refusedBlock).2.driver.network.opened = 1 := by
    decide +kernel
  have hrun := run_eq_of_done hdone
  exact ⟨reached_fresh _ _, _, hrun, hopened, hsession⟩

end Runs
end Postgres
end QueryBatch
