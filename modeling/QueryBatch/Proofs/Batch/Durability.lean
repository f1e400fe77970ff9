import QueryBatch.Proofs.Batch.Program

/-!
# When success means committed

A body may finish the transaction that it runs in through the handle in its context, and its owner
then finds the handle closed. Whatever the body does, exactly one call to finish the transaction has
reached the pool once its owner returns successfully: the calls that reached the pool and the handle
that may still be open are one together from the beginning to the end.

The owner takes a transaction that is reported closed for committed. So success means that the
transaction was committed exactly if the owner's own commit was answered without an error, or the
body had committed the transaction before and that was answered without an error.
-/

namespace QueryBatch

variable {ρ S α : Type} {K : Type} {V : K → Type}

section Defs

/-- An answer to a call to finish a transaction. -/
def PoolEvent.answersFinish (tx : Nat) : PoolEvent → Bool
  | .answered (.commit other) _ | .answered (.rollback other) _ => other == tx
  | _ => false

/-- How many calls to finish a transaction were answered. -/
def answerCount (tx : Nat) (log : List PoolEvent) : Nat := log.countP (PoolEvent.answersFinish tx)

/-- One, if the handle of a transaction is open. -/
def openCount (tx : Nat) (world : World (List PoolEvent) S) : Nat :=
  if tx ∈ world.openTx then 1 else 0

/-- A transaction is committed: one call to finish it reached the pool, which was a commit, and the
commit was answered without an error. -/
structure Committed (tx : Nat) (log : List PoolEvent) : Prop where
  once : finishCount tx log = 1
  asked : .asked (.commit tx) ∈ log
  answered : .answered (.commit tx) none ∈ log

/-- Between two worlds, closing the handle of a transaction and calls to finish it go together, and
no more of these calls are answered than were asked. -/
def Balanced (tx : Nat) (before after : World (List PoolEvent) S) : Prop :=
  ∃ gained, after.driver = before.driver ++ gained ∧
    finishCount tx gained + openCount tx after = openCount tx before ∧
    answerCount tx gained ≤ finishCount tx gained

/-- Once a transaction has begun, all is balanced. -/
def Tracked (tx : Nat) (before after : World (List PoolEvent) S) : Prop :=
  .began tx ∈ before.driver → Balanced tx before after

end Defs

section Balance

variable {tx : Nat} {before between after : World (List PoolEvent) S}

theorem answerCount_append
    (log more : List PoolEvent) :
    answerCount tx (log ++ more) = answerCount tx log + answerCount tx more :=
  List.countP_append

/-- An answer to a call that finishes a transaction is about that transaction. -/
theorem PoolEvent.tx?_of_answersFinish
    {event : PoolEvent}
    (hanswers : event.answersFinish tx = true) :
    event.tx? = some tx := by
  unfold PoolEvent.answersFinish at hanswers
  split at hanswers
  · simpa [PoolEvent.tx?, PoolCall.tx?] using hanswers
  · simpa [PoolEvent.tx?, PoolCall.tx?] using hanswers
  · cases hanswers

theorem openCount_congr
    (hopen : tx ∈ after.openTx ↔ tx ∈ before.openTx) :
    openCount tx after = openCount tx before := by
  unfold openCount
  simp [hopen]

theorem Balanced.trans
    (hfirst : Balanced tx before between)
    (hsecond : Balanced tx between after) :
    Balanced tx before after := by
  obtain ⟨gained, hdriver, hcount, hanswers⟩ := hfirst
  obtain ⟨more, hmore, hcount', hanswers'⟩ := hsecond
  refine ⟨gained ++ more, by rw [hmore, hdriver, List.append_assoc], ?_, ?_⟩
  · rw [finishCount_append]
    omega
  · rw [finishCount_append, answerCount_append]
    omega

/-- Events that do not finish a transaction, nor answer to that, balance it if they leave its handle
alone. -/
theorem balanced_of_apart
    {gained : List PoolEvent}
    (hdriver : after.driver = before.driver ++ gained)
    (hopen : tx ∈ after.openTx ↔ tx ∈ before.openTx)
    (hapart : ∀ event ∈ gained, event.finishes tx = false ∧ event.answersFinish tx = false) :
    Balanced tx before after := by
  have hcount : finishCount tx gained = 0 :=
    finishCount_eq_zero fun event hevent => (hapart event hevent).1
  have hanswers : answerCount tx gained = 0 := by
    apply List.countP_eq_zero.2
    intro event hevent
    simp [(hapart event hevent).2]
  refine ⟨gained, hdriver, ?_, ?_⟩
  · rw [hcount, Nat.zero_add]
    exact openCount_congr hopen
  · rw [hanswers]
    exact Nat.zero_le _

theorem frame_tracked :
    Frame (Tracked tx : World (List PoolEvent) S → World (List PoolEvent) S → Prop) where
  quiet hdriver hopen := by
    intro _
    have hnothing := hdriver.trans (List.append_nil _).symm
    exact balanced_of_apart hnothing (by rw [hopen]) (by simp)
  trans hfirst hsecond := by
    intro hbegan
    have hbalanced := hfirst hbegan
    obtain ⟨gained, hdriver, -⟩ := hfirst hbegan
    refine hbalanced.trans (hsecond ?_)
    rw [hdriver]
    exact List.mem_append_left gained hbegan

/-- An exchange has no more answers than calls. -/
theorem answerCount_exchanged
    {call : PoolCall}
    {gained : List PoolEvent}
    (hexchanged : Exchanged call gained) :
    answerCount tx gained ≤ finishCount tx gained := by
  rw [finishCount_exchanged hexchanged]
  cases hexchanged with
  | unanswered => exact Nat.zero_le _
  | answered failure =>
      cases call <;> simp [answerCount, PoolEvent.answersFinish, PoolEvent.finishes]

/-- A call that does not finish a transaction balances it. -/
theorem balanced_of_exchanged
    {call : PoolCall}
    {gained : List PoolEvent}
    (hexchanged : Exchanged call gained)
    (hcall : PoolEvent.finishes tx (.asked call) = false)
    (hdriver : after.driver = before.driver ++ gained)
    (hopen : tx ∈ after.openTx ↔ tx ∈ before.openTx) :
    Balanced tx before after := by
  refine ⟨gained, hdriver, ?_, answerCount_exchanged hexchanged⟩
  rw [finishCount_exchanged hexchanged, hcall, openCount_congr hopen]
  exact Nat.zero_add _

/-- Calls that send leave transactions unfinished. -/
theorem keeps_tracked_askRows
    (pool : AnyPool ρ)
    {call : PoolCall}
    (hcall : PoolEvent.finishes tx (.asked call) = false) :
    (pool.askRows call : Work (List PoolEvent) S _).Keeps (Tracked tx) := by
  apply keeps_askRows
  intro before after gained hexchanged hdriver hopen _
  exact balanced_of_exchanged hexchanged hcall hdriver (by rw [hopen])

theorem keeps_tracked_sendThrough
    (pool : AnyPool ρ)
    (other : Nat)
    (statements : List Statement) :
    (pool.driver.sendThrough other statements : Work (List PoolEvent) S _).Keeps (Tracked tx) := by
  intro cutoff world
  rw [run_sendThrough]
  split
  · exact keeps_tracked_askRows pool rfl cutoff world
  · exact frame_tracked.quiet rfl rfl

/-- Closing a handle balances the call that it lets through. -/
theorem Finished.tracked
    {other : Nat}
    {call : PoolCall}
    (hcall : PoolEvent.finishes tx (.asked call) = (other == tx))
    (hfinished : Finished other call before after) :
    Tracked tx before after := by
  intro _
  have hmem : tx ∈ after.openTx ↔ tx ∈ before.openTx ∧ tx ≠ other := by
    rw [hfinished.openTx]
    exact World.mem_openTx_closed
  by_cases hopen : other ∈ before.openTx
  · obtain ⟨gained, hexchanged, hdriver⟩ := hfinished.asked hopen
    rcases eq_or_ne other tx with rfl | hne
    · refine ⟨gained, hdriver, ?_, answerCount_exchanged hexchanged⟩
      rw [finishCount_exchanged hexchanged, hcall]
      simp [openCount, hmem, hopen]
    · apply balanced_of_exchanged hexchanged _ hdriver
      · simp [hmem, hne.symm]
      · simpa [hcall] using hne
  · have hnothing : after.driver = before.driver ++ [] :=
      (hfinished.silent hopen).trans (List.append_nil _).symm
    apply balanced_of_apart hnothing _ (by simp)
    rw [hmem]
    constructor
    · exact And.left
    · rintro hin
      refine ⟨hin, ?_⟩
      rintro rfl
      exact hopen hin

end Balance

section Programs

variable {pool : AnyPool ρ} {tx : Nat}

/-- A new transaction is not one that has begun before. -/
theorem newTx_ne
    {world : World (List PoolEvent) S}
    (hbegan : .began tx ∈ world.driver) :
    tx ≠ world.newTx := by
  rintro rfl
  exact World.tx?_ne_newTx hbegan rfl

theorem balanced_begun
    {world : World (List PoolEvent) S}
    (hbegan : .began tx ∈ world.driver)
    (time : Nat) :
    Balanced tx world (world.begun time) := by
  have hne := newTx_ne hbegan
  refine balanced_of_apart rfl ?_ ?_
  · simp [World.begun, hne]
  · simp [PoolEvent.finishes, PoolEvent.answersFinish]

theorem balanced_dropHandle
    {other : Nat}
    (hne : tx ≠ other)
    (world : World (List PoolEvent) S) :
    Balanced tx world (pool.driver.dropHandle other world) := by
  rw [dropHandle_eq]
  split
  · refine balanced_of_apart rfl ?_ ?_
    · simp [World.closed, World.gain, hne]
    · simp [PoolEvent.finishes, PoolEvent.answersFinish]
  · exact balanced_of_apart (List.append_nil _).symm Iff.rfl (by simp)

theorem keeps_tracked_withTransaction
    {ctx : Context}
    {body : Nat → Context → Work (List PoolEvent) S (Except Error α)}
    (hbody : ∀ other ctx, (body other ctx).Keeps (Tracked tx)) :
    (pool.driver.withTransaction ctx body).Keeps (Tracked tx) := by
  cases htx : ctx.tx with
  | some other =>
      unfold Driver.withTransaction
      rw [htx]
      exact hbody other ctx
  | none =>
      intro cutoff world
      rw [run_withTransaction pool ctx htx]
      rcases pool.acknowledged .begin (earliest ctx.deadline cutoff) world.driver world.now
        with _ | ⟨time, e | ⟨⟩⟩
      · exact fun _ => balanced_of_exchanged .unanswered rfl rfl Iff.rfl
      · exact fun _ => balanced_of_exchanged (.answered _) rfl rfl Iff.rfl
      · intro hbegan
        have hbegun := balanced_begun hbegan time
        have hstart : .began tx ∈ (world.begun time).driver := List.mem_append_left _ hbegan
        have hleft := hbody world.newTx (ctx.derive world.newTx) cutoff (world.begun time) hstart
        exact (hbegun.trans hleft).trans (balanced_dropHandle (newTx_ne hbegan) _)

theorem keeps_tracked_finish
    (ctx : Context)
    (other : Nat)
    (result : Except Error α) :
    (pool.finish ctx other result : Work (List PoolEvent) S _).Keeps (Tracked tx) := by
  intro cutoff world
  refine Finished.tracked ?_ (finish_finished pool ctx other result cutoff world)
  cases result <;> rfl

theorem keeps_tracked_transact
    {ctx : Context}
    {body : Context → Nat → Work (List PoolEvent) S (Except Error α)}
    (hbody : ∀ ctx other, (body ctx other).Keeps (Tracked tx)) :
    (pool.driver.transact ctx body).Keeps (Tracked tx) := by
  cases htx : ctx.tx with
  | some other =>
      rw [transact_nested pool ctx htx]
      exact hbody ctx other
  | none =>
      rw [run_transact pool ctx htx]
      apply keeps_tracked_withTransaction
      intro other ctx
      exact Work.keeps_bind frame_tracked (hbody ctx other) (keeps_tracked_finish ctx other)

/-- Along a run of any program, closing the handle of a transaction and calls to finish it go
together. -/
theorem Program.keeps_tracked
    [DecidableEq K]
    {free : Prop}
    (p : Program free ρ V α)
    (ctx : Context) :
    (p.run pool ctx).Keeps (Tracked tx) := by
  have hsend : ∀ statements,
      (pool.askRows (.send statements) : Work (List PoolEvent) (Cells V) _).Keeps (Tracked tx) :=
    fun _ => keeps_tracked_askRows pool rfl
  -- parts may run with any context, so nothing is assumed about the handle that it carries
  induction p generalizing ctx with
  | ret result => exact Work.keeps_pure frame_tracked _
  | look next ih =>
      exact Work.keeps_bind frame_tracked (Work.keeps_look frame_tracked _) fun view => ih view ctx
  | change f next ih =>
      exact Work.keeps_bind frame_tracked (fun _ _ => frame_tracked.quiet rfl rfl) fun _ => ih ctx
  | pause ms next ih =>
      cases ms with
      | none => exact keeps_never frame_tracked
      | some ms =>
          exact Work.keeps_bind frame_tracked (keeps_sleep frame_tracked ms) fun _ => ih ctx
  | runBatch deadline callback next ih =>
      apply Work.keeps_bind frame_tracked
      · exact keeps_runBatch frame_tracked callback hsend
      · exact fun result => ih result ctx
  | runBatchInTransaction deadline callback next ih =>
      apply Work.keeps_bind frame_tracked
      · unfold Driver.runBatchInTransaction
        apply Work.keeps_inSpan frame_tracked
        apply keeps_tracked_transact
        intro ctx other
        exact keeps_batch frame_tracked (callback ctx) (keeps_tracked_sendThrough pool other)
          (fun _ => rfl) (fun _ => rfl)
      · exact fun result => ih result ctx
  | inTransaction deadline body next ihBody ihNext =>
      apply Work.keeps_bind frame_tracked
      · exact keeps_tracked_transact fun ctx _ => ihBody ctx
      · exact fun result => ihNext result ctx
  | abandon limit part next ihPart ihNext =>
      apply Work.keeps_bind frame_tracked
      · exact Work.keeps_giveUpAt (ihPart ctx) limit
      · exact fun result => ihNext result ctx
  | send statements next ih =>
      apply Work.keeps_bind frame_tracked
      · exact Context.keeps_through frame_tracked fun other _ =>
          keeps_tracked_sendThrough pool other statements
      · exact fun answers => ih answers ctx
  | commit _ next ih =>
      apply Work.keeps_bind frame_tracked
      · exact Context.keeps_through frame_tracked fun other _ cutoff world =>
          (commitThrough_finished pool other cutoff world).tracked rfl
      · exact fun answer => ih answer ctx
  | rollback _ next ih =>
      apply Work.keeps_bind frame_tracked
      · exact Context.keeps_through frame_tracked fun other _ cutoff world =>
          (rollbackThrough_finished pool other cutoff world).tracked rfl
      · exact fun answer => ih answer ctx
  | withTransaction _ deadline body next ihBody ihNext =>
      apply Work.keeps_bind frame_tracked
      · exact keeps_tracked_withTransaction fun _ ctx => ihBody ctx
      · exact fun result => ihNext result ctx
  | under _ other part next ihPart ihNext =>
      apply Work.keeps_bind frame_tracked
      · exact ihPart other
      · exact fun result => ihNext result ctx

end Programs

section Success

variable {pool : AnyPool ρ} {ctx : Context} {tx : Nat} {cutoff : Option Nat}

/-- An owner succeeds only after a body that did, and only if its commit did. -/
theorem finish_ok
    {result : Except Error α}
    {v : α}
    {left : World (List PoolEvent) S}
    (hok : ((pool.finish ctx tx result).run cutoff left).1 = .done (.ok v)) :
    result = .ok v ∧
      ((pool.driver.commitOwned ctx tx).run cutoff left).1 = .done (.ok ()) ∧
      ((pool.finish ctx tx result).run cutoff left).2
        = ((pool.driver.commitOwned ctx tx).run cutoff left).2 := by
  cases result with
  | error cause =>
      unfold AnyPool.finish at hok
      rw [Work.run_bind] at hok
      rcases hrun : (pool.driver.rollbackOwned ctx tx cause).run cutoff left
        with ⟨e | _ | _, after⟩
      all_goals
        rw [hrun] at hok
        simp at hok
  | ok a =>
      unfold AnyPool.finish at hok ⊢
      rw [Work.run_bind] at hok ⊢
      rcases hrun : (pool.driver.commitOwned ctx tx).run cutoff left
        with ⟨(e | ⟨⟩) | _ | _, after⟩
      · rw [hrun] at hok
        simp at hok
      · rw [hrun] at hok
        exact ⟨by simpa using hok, rfl, rfl⟩
      · rw [hrun] at hok
        simp at hok
      · rw [hrun] at hok
        simp at hok

/-- Before a transaction is finished no answer to that is in the log. -/
theorem not_answered_of_open
    {log : List PoolEvent}
    (hcount : answerCount tx log = 0)
    (failure : Option DriverError) :
    .answered (.commit tx) failure ∉ log := by
  intro hanswered
  have hnot := List.countP_eq_zero.1 hcount _ hanswered
  exact hnot (by simp [PoolEvent.answersFinish])

/-- A commit that is the first call to finish a transaction commits it exactly if it is answered
without an error. -/
theorem committed_append_iff
    {log : List PoolEvent}
    (hcount : finishCount tx log = 0)
    (hanswers : answerCount tx log = 0)
    (answer : Except DriverError Unit) :
    Committed tx (log ++ [.asked (.commit tx), .answered (.commit tx) (failure? answer)]) ↔
      answer = .ok () := by
  constructor
  · intro hcommitted
    have hanswered := hcommitted.answered
    rw [List.mem_append] at hanswered
    rcases hanswered with hbefore | hlast
    · exact absurd hbefore (not_answered_of_open hanswers none)
    · rcases answer with e | ⟨⟩
      · simp [failure?] at hlast
      · rfl
  · rintro rfl
    refine ⟨?_, by simp, by simp [failure?]⟩
    rw [finishCount_append, hcount]
    simp [finishCount, PoolEvent.finishes]

/-- What an owner's successful commit leaves, after a body that kept the balance. -/
theorem commitOwned_ok
    (pool : AnyPool ρ)
    {left : World (List PoolEvent) S}
    (hcount : finishCount tx left.driver + openCount tx left = 1)
    (hanswers : answerCount tx left.driver ≤ finishCount tx left.driver)
    (hok : ((pool.driver.commitOwned ctx tx).run cutoff left).1 = .done (.ok ())) :
    let log := (pool.driver.dropHandle tx
      ((pool.driver.commitOwned ctx tx).run cutoff left).2).driver
    finishCount tx log = 1 ∧
      (Committed tx log ↔
        (tx ∈ left.openTx ∧ ∃ later, pool.acknowledged (.commit tx)
          (earliest ctx.deadline cutoff) left.driver left.now = some (later, .ok ())) ∨
        (tx ∉ left.openTx ∧ Committed tx left.driver)) := by
  have hclosed : tx ∉ ((pool.driver.commitOwned ctx tx).run cutoff left).2.openTx := by
    rw [(commitOwned_finished pool ctx tx cutoff left).openTx]
    simp
  rw [dropHandle_eq, if_neg hclosed]
  rw [run_commitOwned] at hok ⊢
  by_cases hopen : tx ∈ left.openTx
  · have hone : openCount tx left = 1 := if_pos hopen
    have hnone : finishCount tx left.driver = 0 := by omega
    have hsilent : answerCount tx left.driver = 0 := by omega
    rw [if_pos hopen] at hok ⊢
    rcases hreply : pool.acknowledged (.commit tx) (earliest ctx.deadline cutoff) left.driver
      left.now with _ | ⟨later, answer⟩
    · rw [hreply] at hok
      exact absurd hok (unanswered_ne_ok _ _ _ ())
    · dsimp only [World.driver_gain, World.driver_closed]
      rw [committed_append_iff hnone hsilent answer]
      refine ⟨?_, ?_⟩
      · rw [finishCount_append, hnone, finishCount_exchanged (.answered _)]
        simp [PoolEvent.finishes]
      · simp [hopen]
  · have hone : openCount tx left = 0 := if_neg hopen
    rw [if_neg hopen]
    exact ⟨by simpa [hone] using hcount, by simp [hopen]⟩

/-- When the body of a new transaction is left, one call to finish the transaction has reached the
pool or its handle is open. -/
theorem left_balanced
    {world left : World (List PoolEvent) S}
    {time : Nat}
    (hbalanced : Balanced world.newTx (world.begun time) left) :
    finishCount world.newTx left.driver + openCount world.newTx left = 1 ∧
      answerCount world.newTx left.driver ≤ finishCount world.newTx left.driver := by
  obtain ⟨gained, hdriver, hcount, hanswers⟩ := hbalanced
  have hopen : openCount world.newTx (world.begun time) = 1 := if_pos List.mem_cons_self
  have hbegun : finishCount world.newTx (world.begun time).driver = 0 :=
    World.finishCount_begun time
  have hsilent : answerCount world.newTx (world.begun time).driver = 0 := by
    have hbefore : answerCount world.newTx world.driver = 0 :=
      World.countP_newTx fun _ => PoolEvent.tx?_of_answersFinish
    have hstart : (world.begun time).driver
        = world.driver ++ [.asked .begin, .answered .begin none, .began world.newTx] := rfl
    rw [hstart, answerCount_append, hbefore]
    rfl
  rw [hdriver, finishCount_append, answerCount_append]
  omega

/-- Transactions begun for a body that may do anything, the handle in its context included. If the
call succeeds, exactly one call to finish the transaction has reached the pool, and the transaction
is committed exactly if either the owner found the handle open and its commit was answered without
an error, or it found the handle closed and the body had committed the transaction. -/
theorem in_transaction_ok_committed_iff
    [DecidableEq K]
    (pool : AnyPool ρ)
    (ctx : Context)
    (body : Program True ρ V α)
    (cutoff : Option Nat)
    (world : World (List PoolEvent) (Cells V))
    (v : α)
    (hctx : ctx.tx = none)
    (hok : ((pool.driver.inTransaction ctx fun ctx => body.run pool ctx).run cutoff world).1
      = .done (.ok v)) :
    ∃ time,
      pool.acknowledged .begin (earliest ctx.deadline cutoff) world.driver world.now
        = some (time, .ok ()) ∧
      let tx := world.newTx
      let left := (body.run pool (ctx.derive tx)).run cutoff (world.begun time)
      let log := ((pool.driver.inTransaction ctx fun ctx =>
        body.run pool ctx).run cutoff world).2.driver
      left.1 = .done (.ok v) ∧
      finishCount tx log = 1 ∧
      (Committed tx log ↔
        (tx ∈ left.2.openTx ∧ ∃ later, pool.acknowledged (.commit tx)
          (earliest ctx.deadline cutoff) left.2.driver left.2.now = some (later, .ok ())) ∨
        (tx ∉ left.2.openTx ∧ Committed tx left.2.driver)) := by
  have htransact : pool.driver.inTransaction ctx (fun ctx => body.run pool ctx)
      = pool.driver.withTransaction ctx fun tx ctx =>
          body.run pool ctx >>= pool.finish ctx tx :=
    run_transact pool ctx hctx fun ctx _ => body.run pool ctx
  rw [htransact, run_withTransaction pool ctx hctx] at hok ⊢
  rcases hbegin : pool.acknowledged .begin (earliest ctx.deadline cutoff) world.driver world.now
    with _ | ⟨time, e | ⟨⟩⟩
  · rw [hbegin] at hok
    exact absurd hok (unanswered_ne_ok _ _ _ v)
  · rw [hbegin] at hok
    simp at hok
  · refine ⟨time, rfl, ?_⟩
    rw [hbegin] at hok
    intro tx left log
    have hbalanced : Balanced tx (world.begun time) left.2 :=
      body.keeps_tracked (ctx.derive tx) cutoff (world.begun time)
        (List.mem_append_right _ (by simp [tx]))
    obtain ⟨hcount, hanswers⟩ := left_balanced hbalanced
    have hlog : log = (pool.driver.dropHandle tx ((body.run pool (ctx.derive tx) >>=
        pool.finish (ctx.derive tx) tx).run cutoff (world.begun time)).2).driver := rfl
    change ((body.run pool (ctx.derive tx) >>= pool.finish (ctx.derive tx) tx).run cutoff
      (world.begun time)).1 = _ at hok
    rw [Work.run_bind] at hok hlog
    -- the owner succeeds only if the body returned, and then its own commit decides
    rcases hleft : left with ⟨result | _ | _, after⟩
    all_goals
      have hrun : (body.run pool (ctx.derive tx)).run cutoff (world.begun time) = _ := hleft
      rw [hrun] at hok hlog
    · rw [hleft] at hcount hanswers
      obtain ⟨rfl, hcommit, hworld⟩ := finish_ok hok
      have hfinished : log = (pool.driver.dropHandle tx
          ((pool.driver.commitOwned (ctx.derive tx) tx).run cutoff after).2).driver := by
        rw [← hworld]
        exact hlog
      rw [hfinished]
      exact ⟨rfl, commitOwned_ok pool hcount hanswers hcommit⟩
    · simp at hok
    · simp at hok

/-- A pool that agrees at once to all that sends nothing. -/
def promptPool : AnyPool Unit where
  plain _ _ _ := .after 0 (.ok ())
  rows _ _ _ := .never

/-- A world in which nothing has happened yet and the caller has no cells. -/
def bareWorld : World (List PoolEvent) (Cells fun _ : Empty => Unit) where
  now := 0
  spans := []
  notes := []
  openTx := []
  driver := []
  store := nofun

/-- A body that commits through its handle succeeds, and its transaction is committed. -/
theorem in_transaction_ok_after_commit :
    let body : Program True Unit (fun _ : Empty => Unit) Unit :=
      .commit trivial fun _ => .ret (.ok ())
    let out := (promptPool.driver.inTransaction .empty fun ctx =>
      body.run promptPool ctx).run none bareWorld
    out.1 = .done (.ok ()) ∧ finishCount 0 out.2.driver = 1 ∧ Committed 0 out.2.driver := by
  intro body out
  have hok : out.1 = .done (.ok ()) := rfl
  obtain ⟨time, hbegin, -, hcount, hiff⟩ :=
    in_transaction_ok_committed_iff promptPool .empty body none bareWorld () rfl hok
  have hreply : some (0, (.ok () : Except DriverError Unit)) = some (time, .ok ()) := hbegin
  cases hreply
  refine ⟨hok, hcount, hiff.2 (Or.inr ⟨List.not_mem_nil, ?_⟩)⟩
  have hleft : ((body.run promptPool (Context.empty.derive 0)).run none
      (bareWorld.begun 0)).2.driver
        = [.asked .begin, .answered .begin none, .began 0, .asked (.commit 0),
            .answered (.commit 0) none] := rfl
  change Committed 0 ((body.run promptPool (Context.empty.derive 0)).run none
    (bareWorld.begun 0)).2.driver
  rw [hleft]
  exact ⟨rfl, by simp, by simp⟩

/-- A body that rolls back through its handle succeeds too, but nothing is committed. -/
theorem in_transaction_ok_after_rollback :
    let body : Program True Unit (fun _ : Empty => Unit) Unit :=
      .rollback trivial fun _ => .ret (.ok ())
    let out := (promptPool.driver.inTransaction .empty fun ctx =>
      body.run promptPool ctx).run none bareWorld
    out.1 = .done (.ok ()) ∧
      out.2.driver = [.asked .begin, .answered .begin none, .began 0, .asked (.rollback 0),
        .answered (.rollback 0) none] ∧
      ¬ Committed 0 out.2.driver := by
  intro body out
  have hlog : out.2.driver = [.asked .begin, .answered .begin none, .began 0,
      .asked (.rollback 0), .answered (.rollback 0) none] := rfl
  refine ⟨rfl, hlog, fun hcommitted => ?_⟩
  have hasked := hcommitted.asked
  rw [hlog] at hasked
  simp at hasked

end Success
end QueryBatch
