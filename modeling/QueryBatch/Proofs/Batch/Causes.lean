import QueryBatch.Proofs.Batch.Durability
import QueryBatch.Proofs.Batch.Nesting

/-!
# What a failure goes back to

Whoever began a transaction and saw its body fail reports that failure: alone if the rollback went
well or nothing was left to roll back, and else joined with what became of the rollback. A call that
found its transaction in the context hands the failure on as it is. So at any depth, whoever owns
which transaction and however the rollbacks end, the root of an error that was passed on all the
way up is the root of the error that the innermost body or callback ended with.

`Program.FailsFrom` follows an error down to where it came from, through all the calls that returned
it. Nothing is asked of the code between these calls but that it ends with the error in the end.
-/

namespace QueryBatch

variable {free : Prop} {σ ρ S α β : Type} {K : Type} {V : K → Type} [DecidableEq K]

section Defs

/-- A run of work ends with an error. -/
def Work.Fails (w : Work σ S (Except Error α)) (cutoff : Option Nat) (world : World σ S)
    (e : Error) : Prop :=
  (w.run cutoff world).1 = .done (.error e)

/-- A call with a context starts its body with a context and a transaction, in a world. -/
inductive Enters
    (pool : AnyPool ρ)
    (ctx : Context)
    (cutoff : Option Nat)
    (world : World (List PoolEvent) S) :
    Context → Nat → World (List PoolEvent) S → Prop
  /-- The transaction is there already. -/
  | joined
      {tx : Nat}
      (htx : ctx.tx = some tx) :
      Enters pool ctx cutoff world ctx tx world
  /-- The transaction is begun for the body. -/
  | begun
      {time : Nat}
      (hctx : ctx.tx = none)
      (hbegin : pool.acknowledged .begin (earliest ctx.deadline cutoff) world.driver world.now
        = some (time, .ok ())) :
      Enters pool ctx cutoff world (ctx.derive world.newTx) world.newTx (world.begun time)

/-- How long a rollback is waited for that starts at a time: until the deadline of the context, but
at least for a second. -/
def Context.rollbackLimit (ctx : Context) (now : Nat) : Option Nat :=
  ctx.deadline.map fun deadline => max deadline (now + 1000)

/-- An owner takes something for the answer to its rollback after a body that failed in the world
`left`. -/
inductive RollbackAnswers
    (pool : AnyPool ρ)
    (ctx : Context)
    (tx : Nat)
    (cutoff : Option Nat)
    (left : World (List PoolEvent) S) :
    Except DriverError Unit → Prop
  /-- The transaction was finished further down. -/
  | closed
      (hclosed : tx ∉ left.openTx) :
      RollbackAnswers pool ctx tx cutoff left (.error .txClosed)
  | answered
      {time : Nat}
      {answer : Except DriverError Unit}
      (hopen : tx ∈ left.openTx)
      (hreply : pool.acknowledged (.rollback tx) (earliest (ctx.rollbackLimit left.now) cutoff)
        left.driver left.now = some (time, answer)) :
      RollbackAnswers pool ctx tx cutoff left answer
  /-- No answer came in time. -/
  | abandoned
      {last : Nat}
      (hopen : tx ∈ left.openTx)
      (hlimit : ctx.rollbackLimit left.now = some last)
      (hcutoff : ∀ limit ∈ cutoff, last ≤ limit)
      (hreply : pool.acknowledged (.rollback tx) (earliest (ctx.rollbackLimit left.now) cutoff)
        left.driver left.now = none) :
      RollbackAnswers pool ctx tx cutoff left
        (.error (.connection "deadline exceeded while waiting to roll back transaction"))

/-- The first thing that a program does, and the program after it. -/
structure Program.Head (free : Prop) (ρ : Type) {K : Type} (V : K → Type) (α : Type) : Type 1 where
  {β : Type}
  work : Context → Work (List PoolEvent) (Cells V) β
  next : β → Program free ρ V α

def Program.head? (pool : AnyPool ρ) : Program free ρ V α → Option (Head free ρ V α)
  | .ret _ => none
  | .look next => some ⟨fun ctx => Work.look (View.of ctx), next⟩
  | .change f next => some ⟨fun _ => Work.changeStore f, fun _ => next⟩
  | .pause none next => some ⟨fun _ => (Work.never : Work _ _ Unit), fun _ => next⟩
  | .pause (some ms) next => some ⟨fun _ => Work.sleep ms, fun _ => next⟩
  | .runBatch deadline callback next =>
      some ⟨fun ctx => pool.driver.runBatch (ctx.shorten deadline) fun ctx => (callback ctx).run,
        next⟩
  | .runBatchInTransaction deadline callback next =>
      some ⟨fun ctx => pool.driver.runBatchInTransaction (ctx.shorten deadline)
        fun ctx => (callback ctx).run, next⟩
  | .inTransaction deadline body next =>
      some ⟨fun ctx => pool.driver.inTransaction (ctx.shorten deadline)
        fun ctx => body.run pool ctx, next⟩
  | .abandon limit part next => some ⟨fun ctx => Work.giveUpAt limit (part.run pool ctx), next⟩
  | .send statements next =>
      some ⟨fun ctx => ctx.through fun tx => pool.driver.sendThrough tx statements, next⟩
  | .commit _ next => some ⟨fun ctx => ctx.through pool.driver.commitThrough, next⟩
  | .rollback _ next => some ⟨fun ctx => ctx.through pool.driver.rollbackThrough, next⟩
  | .withTransaction _ deadline body next =>
      some ⟨fun ctx => pool.driver.withTransaction (ctx.shorten deadline)
        fun _ ctx => body.run pool ctx, next⟩
  | .under _ other part next => some ⟨fun _ => part.run pool other, next⟩

/-- A program that starts in a world gets to a later part of it in another one. -/
inductive Program.Reaches
    (pool : AnyPool ρ)
    (ctx : Context)
    (cutoff : Option Nat) :
    Program free ρ V α → World (List PoolEvent) (Cells V) →
      Program free ρ V α → World (List PoolEvent) (Cells V) → Prop
  | here
      (p : Program free ρ V α)
      (world : World (List PoolEvent) (Cells V)) :
      Reaches pool ctx cutoff p world p world
  | later
      {p later : Program free ρ V α}
      {head : Head free ρ V α}
      {answer : head.β}
      {world left between : World (List PoolEvent) (Cells V)}
      (hhead : p.head? pool = some head)
      (hrun : (head.work ctx).run cutoff world = (.done answer, left))
      (hlater : Reaches pool ctx cutoff (head.next answer) left later between) :
      Reaches pool ctx cutoff p world later between

/-- A program begins with a call that has a program for its body. The call starts the body with a
context under a cut-off in a world, and fails with an error. The rest of the program goes on with
that error from the world that the call left. -/
inductive Program.CallFails
    (pool : AnyPool ρ)
    (ctx : Context)
    (cutoff : Option Nat)
    (world : World (List PoolEvent) (Cells V)) :
    Program free ρ V α → Program free ρ V β → Context → Option Nat →
      World (List PoolEvent) (Cells V) → Error → Program free ρ V α →
      World (List PoolEvent) (Cells V) → Prop
  | inTransaction
      {deadline : Option Nat}
      {body : Program free ρ V β}
      {next : Except Error β → Program free ρ V α}
      {inner : Context}
      {tx : Nat}
      {start left : World (List PoolEvent) (Cells V)}
      {e : Error}
      (henters : Enters pool (ctx.shorten deadline) cutoff world inner tx start)
      (hfails : (pool.driver.inTransaction (ctx.shorten deadline)
        fun ctx => body.run pool ctx).run cutoff world = (.done (.error e), left)) :
      CallFails pool ctx cutoff world (.inTransaction deadline body next) body inner cutoff start e
        (next (.error e)) left
  | withTransaction
      {granted : free}
      {deadline : Option Nat}
      {body : Program free ρ V β}
      {next : Except Error β → Program free ρ V α}
      {inner : Context}
      {tx : Nat}
      {start left : World (List PoolEvent) (Cells V)}
      {e : Error}
      (henters : Enters pool (ctx.shorten deadline) cutoff world inner tx start)
      (hfails : (pool.driver.withTransaction (ctx.shorten deadline)
        fun _ ctx => body.run pool ctx).run cutoff world = (.done (.error e), left)) :
      CallFails pool ctx cutoff world (.withTransaction granted deadline body next) body inner
        cutoff start e (next (.error e)) left
  | under
      {granted : free}
      {other : Context}
      {part : Program free ρ V β}
      {next : Except Error β → Program free ρ V α}
      {left : World (List PoolEvent) (Cells V)}
      {e : Error}
      (hfails : (part.run pool other).run cutoff world = (.done (.error e), left)) :
      CallFails pool ctx cutoff world (.under granted other part next) part other cutoff world e
        (next (.error e)) left
  | abandon
      {limit : Nat}
      {part : Program free ρ V β}
      {next : Option (Except Error β) → Program free ρ V α}
      {left : World (List PoolEvent) (Cells V)}
      {e : Error}
      (hfails : (Work.giveUpAt limit (part.run pool ctx)).run cutoff world
        = (.done (some (.error e)), left)) :
      CallFails pool ctx cutoff world (.abandon limit part next) part ctx
        (some (Work.earlier limit cutoff)) world e (next (some (.error e))) left

/-- A program begins with a batch whose callback, or else its body, ends with the error `why`. The
batch fails with an error, and the rest of the program goes on with that. -/
inductive Program.BatchFails
    (pool : AnyPool ρ)
    (ctx : Context)
    (cutoff : Option Nat)
    (world : World (List PoolEvent) (Cells V)) :
    Program free ρ V α → Error → Error → Program free ρ V α →
      World (List PoolEvent) (Cells V) → Prop
  | outside
      {deadline : Option Nat}
      {callback : Context → Callback ρ V}
      {next : Except Error Unit → Program free ρ V α}
      {left : World (List PoolEvent) (Cells V)}
      {why e : Error}
      (hcallback : ((callback (ctx.shorten deadline)).outcome world.now world.store).result
        = .error why)
      (hfails : (pool.driver.runBatch (ctx.shorten deadline)
        fun ctx => (callback ctx).run).run cutoff world = (.done (.error e), left)) :
      BatchFails pool ctx cutoff world (.runBatch deadline callback next) why e
        (next (.error e)) left
  | callback
      {deadline : Option Nat}
      {callback : Context → Callback ρ V}
      {next : Except Error Unit → Program free ρ V α}
      {inner : Context}
      {tx : Nat}
      {start left : World (List PoolEvent) (Cells V)}
      {why e : Error}
      (henters : Enters pool (ctx.shorten deadline) cutoff
        { world with spans := "run_batch_in_transaction" :: world.spans } inner tx start)
      (hcallback : ((callback inner).outcome start.now start.store).result = .error why)
      (hfails : (pool.driver.runBatchInTransaction (ctx.shorten deadline)
        fun ctx => (callback ctx).run).run cutoff world = (.done (.error e), left)) :
      BatchFails pool ctx cutoff world (.runBatchInTransaction deadline callback next) why e
        (next (.error e)) left
  | body
      {deadline : Option Nat}
      {callback : Context → Callback ρ V}
      {next : Except Error Unit → Program free ρ V α}
      {inner : Context}
      {tx : Nat}
      {start left : World (List PoolEvent) (Cells V)}
      {why e : Error}
      (henters : Enters pool (ctx.shorten deadline) cutoff
        { world with spans := "run_batch_in_transaction" :: world.spans } inner tx start)
      (hbody : (batchBody pool callback inner tx).Fails cutoff start why)
      (hfails : (pool.driver.runBatchInTransaction (ctx.shorten deadline)
        fun ctx => (callback ctx).run).run cutoff world = (.done (.error e), left)) :
      BatchFails pool ctx cutoff world (.runBatchInTransaction deadline callback next) why e
        (next (.error e)) left

/-- A program fails with an error `e` that was handed on from call to call, and that goes back to a
body or a callback that ended with `why`. -/
inductive Program.FailsFrom
    (pool : AnyPool ρ) :
    {α : Type} → Program free ρ V α → Context → Option Nat →
      World (List PoolEvent) (Cells V) → Error → Error → Prop
  /-- The error is followed no further. -/
  | itself
      {α : Type}
      {p : Program free ρ V α}
      {ctx : Context}
      {cutoff : Option Nat}
      {world : World (List PoolEvent) (Cells V)}
      {e : Error}
      (hfails : (p.run pool ctx).Fails cutoff world e) :
      FailsFrom pool p ctx cutoff world e e
  /-- The program gets to a batch, and ends with the error of that. -/
  | batch
      {α : Type}
      {p later rest : Program free ρ V α}
      {ctx : Context}
      {cutoff : Option Nat}
      {world between left : World (List PoolEvent) (Cells V)}
      {e why : Error}
      (hreaches : p.Reaches pool ctx cutoff world later between)
      (hbatch : later.BatchFails pool ctx cutoff between why e rest left)
      (hpassed : (rest.run pool ctx).Fails cutoff left e) :
      FailsFrom pool p ctx cutoff world e why
  /-- The program gets to a call, and ends with the error of that. -/
  | call
      {α β : Type}
      {p later rest : Program free ρ V α}
      {body : Program free ρ V β}
      {ctx inner : Context}
      {cutoff limit : Option Nat}
      {world between start left : World (List PoolEvent) (Cells V)}
      {e cause why : Error}
      (hreaches : p.Reaches pool ctx cutoff world later between)
      (hcall : later.CallFails pool ctx cutoff between body inner limit start e rest left)
      (hbody : body.FailsFrom pool inner limit start cause why)
      (hpassed : (rest.run pool ctx).Fails cutoff left e) :
      FailsFrom pool p ctx cutoff world e why

end Defs

section Roots

/-- The root of an error is no tag of a statement and no failure with that of a rollback. -/
theorem Error.root_bare
    (e : Error) :
    (∀ index source, e.root ≠ .statement index source) ∧
      ∀ cause why, e.root ≠ .rollback cause why := by
  induction e with
  | statement index source ih => exact ih
  | rollback cause why ih => exact ih
  | _ => exact ⟨nofun, nofun⟩

/-- What an owner reports has the root of the failure. -/
theorem root_rollbackReport
    (cause : Error)
    (answer : Except DriverError Unit) :
    (rollbackReport cause answer).root = cause.root := by
  rcases answer with (_ | _ | _) | _ <;> rfl

end Roots

section Waiting

variable {deadline cutoff : Option Nat} {phase : Phase}

/-- A wait in vain ends with an answer if its own deadline is not after the cut-off. -/
theorem unanswered_eq_done_iff
    {result : Except Error α} :
    unanswered deadline cutoff phase = .done result ↔
      ∃ last, deadline = some last ∧ (∀ limit ∈ cutoff, last ≤ limit) ∧
        result = .error (.deadlineExceeded phase) := by
  unfold unanswered
  rcases deadline with _ | deadline <;> rcases cutoff with _ | limit
  · simp
  · simp
  · simp [eq_comm]
  · by_cases hle : deadline ≤ limit
    · simp [hle, eq_comm]
    · simp [hle]

theorem limit_of_andThen_unanswered
    {after : World σ S}
    {next : Except Error α → World σ S → Ending β × World σ S}
    {b : β}
    (hdone : (Ending.andThen (unanswered deadline cutoff phase, after) next).1 = .done b) :
    ∃ last, deadline = some last ∧ ∀ limit ∈ cutoff, last ≤ limit := by
  cases hending : (unanswered deadline cutoff phase : Ending (Except Error α)) with
  | done result =>
      obtain ⟨last, hdeadline, hcutoff, -⟩ := unanswered_eq_done_iff.1 hending
      exact ⟨last, hdeadline, hcutoff⟩
  | cut =>
      rw [hending] at hdone
      cases hdone
  | stuck =>
      rw [hending] at hdone
      cases hdone

end Waiting

section Owners

variable {pool : AnyPool ρ} {ctx inner : Context} {tx : Nat} {cutoff : Option Nat}
variable {world start left : World (List PoolEvent) S}

theorem ending_withTransaction
    (henters : Enters pool ctx cutoff world inner tx start)
    (body : Nat → Context → Work (List PoolEvent) S (Except Error α)) :
    ((pool.driver.withTransaction ctx body).run cutoff world).1
      = ((body tx inner).run cutoff start).1 := by
  cases henters with
  | joined htx =>
      unfold Driver.withTransaction
      rw [htx]
  | begun hctx hbegin => rw [run_withTransaction pool ctx hctx, hbegin]

/-- An owner that finds the handle closed has nothing to roll back. -/
theorem ending_finish_closed
    (hclosed : tx ∉ left.openTx)
    (cause : Error) :
    ((pool.finish ctx tx (.error cause : Except Error α)).run cutoff left).1
      = .done (.error cause) := by
  let noted := left.note "WARN"
    [("message", "rolling back transaction"), ("error", cause.message)]
  have hthrough : (pool.driver.rollbackThrough tx).run
      (earliest (ctx.rollbackLimit left.now) cutoff) noted = _ := run_rollbackThrough pool tx
  have hnoted : tx ∉ noted.openTx := hclosed
  rw [if_neg hnoted] at hthrough
  have hrolled : (until? (ctx.deadline.map fun deadline => max deadline (left.now + 1000)) .rollback
      (pool.driver.rollbackThrough tx)).run cutoff noted = _ := until?_answered hthrough
  have hout : (pool.finish ctx tx (.error cause : Except Error α)).run cutoff left
      = Ending.andThen ((pool.driver.rollbackOwned ctx tx cause).run cutoff left)
          fun e left => (.done (.error e), left) := rfl
  rw [hout, run_rollbackOwned, hrolled]
  rfl

/-- An owner whose body failed reports what it takes for the answer to its rollback. -/
theorem RollbackAnswers.ending
    {answer : Except DriverError Unit}
    (hanswers : RollbackAnswers pool ctx tx cutoff left answer)
    (cause : Error) :
    ((pool.finish ctx tx (.error cause : Except Error α)).run cutoff left).1
      = .done (.error (rollbackReport cause answer)) := by
  cases hanswers with
  | closed hclosed => exact ending_finish_closed hclosed cause
  | answered hopen hreply =>
      obtain ⟨after, hout, -⟩ := run_finish_error_asked α pool ctx hopen cause cutoff
      unfold Context.rollbackLimit at hreply
      rw [hreply] at hout
      rw [hout]
      rfl
  | @abandoned last hopen hlimit hcutoff hreply =>
      obtain ⟨after, hout, -⟩ := run_finish_error_asked α pool ctx hopen cause cutoff
      unfold Context.rollbackLimit at hlimit hreply
      rw [hreply, Option.elim_none, unanswered_eq_done_iff.2 ⟨last, hlimit, hcutoff, rfl⟩] at hout
      rw [hout]
      rfl

/-- An owner whose body failed does not return before it has something to take for the answer. -/
theorem rollbackAnswers_of_done
    {result : Except Error α}
    {cause : Error}
    (hdone : ((pool.finish ctx tx (.error cause : Except Error α)).run cutoff left).1
      = .done result) :
    ∃ answer, RollbackAnswers pool ctx tx cutoff left answer ∧
      result = .error (rollbackReport cause answer) := by
  suffices hanswers : ∃ answer, RollbackAnswers pool ctx tx cutoff left answer by
    obtain ⟨answer, hanswers⟩ := hanswers
    have hending : ((pool.finish ctx tx (.error cause : Except Error α)).run cutoff left).1 = _ :=
      hanswers.ending cause
    rw [hdone] at hending
    exact ⟨answer, hanswers, Ending.done.inj hending⟩
  by_cases hopen : tx ∈ left.openTx
  · cases hreply : pool.acknowledged (.rollback tx) (earliest (ctx.rollbackLimit left.now) cutoff)
      left.driver left.now with
    | some reply => exact ⟨reply.2, .answered hopen hreply⟩
    | none =>
        obtain ⟨after, hout, -⟩ := run_finish_error_asked α pool ctx hopen cause cutoff
        have hasked := hreply
        unfold Context.rollbackLimit at hasked
        rw [hout, hasked, Option.elim_none] at hdone
        obtain ⟨last, hlimit, hcutoff⟩ := limit_of_andThen_unanswered hdone
        exact ⟨_, .abandoned hopen hlimit hcutoff hreply⟩
  · exact ⟨_, .closed hopen⟩

/-- An owner whose body failed goes on with its rollback. -/
theorem ending_transact_own
    {body : Context → Nat → Work (List PoolEvent) S (Except Error α)}
    {cause : Error}
    (hctx : ctx.tx = none)
    (henters : Enters pool ctx cutoff world inner tx start)
    (hbody : (body inner tx).run cutoff start = (.done (.error cause), left)) :
    ((pool.driver.transact ctx body).run cutoff world).1
      = ((pool.finish inner tx (.error cause : Except Error α)).run cutoff left).1 := by
  rw [run_transact pool ctx hctx, ending_withTransaction henters, Work.run_bind, hbody]
  rfl

/-- A call reports a failure with the root of that of its body, whoever owns the transaction. -/
theorem root_of_transact
    {body : Context → Nat → Work (List PoolEvent) S (Except Error α)}
    {cause e : Error}
    (henters : Enters pool ctx cutoff world inner tx start)
    (hbody : (body inner tx).Fails cutoff start cause)
    (hfails : (pool.driver.transact ctx body).Fails cutoff world e) :
    e.root = cause.root := by
  unfold Work.Fails at hfails
  cases henters with
  | joined htx =>
      rw [transact_nested pool ctx htx] at hfails
      cases hfails.symm.trans hbody
      rfl
  | begun hctx hbegin =>
      rw [ending_transact_own hctx (.begun hctx hbegin) (run_eq_of_done hbody)] at hfails
      obtain ⟨answer, -, hreported⟩ := rollbackAnswers_of_done hfails
      cases hreported
      exact root_rollbackReport cause answer

end Owners

section Programs

variable {pool : AnyPool ρ} {ctx inner : Context} {cutoff limit : Option Nat} {e why cause : Error}
variable {world between start left : World (List PoolEvent) (Cells V)}
variable {p later rest : Program free ρ V α} {body : Program free ρ V β}

/-- The first thing that a program does, and then the rest, is all of it. -/
theorem Program.run_head
    {head : Head free ρ V α}
    (hhead : p.head? pool = some head)
    (ctx : Context) :
    p.run pool ctx = head.work ctx >>= fun answer => (head.next answer).run pool ctx := by
  cases p with
  | ret result => cases hhead
  | pause ms next =>
      cases ms with
      | none =>
          cases hhead
          funext cutoff world
          cases cutoff <;> rfl
      | some ms =>
          cases hhead
          rfl
  | _ =>
      cases hhead
      rfl

/-- A program ends as the later part of it does that it gets to. -/
theorem Program.Reaches.run_eq
    (hreaches : p.Reaches pool ctx cutoff world later between) :
    (p.run pool ctx).run cutoff world = (later.run pool ctx).run cutoff between := by
  induction hreaches with
  | here => rfl
  | later hhead hrun _ ih => rw [run_head hhead, Work.run_bind, hrun, Ending.andThen_done, ih]

theorem Program.CallFails.reaches
    (hcall : p.CallFails pool ctx cutoff world body inner limit start e rest left) :
    p.Reaches pool ctx cutoff world rest left := by
  cases hcall with
  | inTransaction henters hfails => exact .later rfl hfails (.here _ _)
  | withTransaction henters hfails => exact .later rfl hfails (.here _ _)
  | under hfails => exact .later rfl hfails (.here _ _)
  | abandon hfails => exact .later rfl hfails (.here _ _)

theorem Program.BatchFails.reaches
    (hbatch : p.BatchFails pool ctx cutoff world why e rest left) :
    p.Reaches pool ctx cutoff world rest left := by
  cases hbatch with
  | outside hcallback hfails => exact .later rfl hfails (.here _ _)
  | callback henters hcallback hfails => exact .later rfl hfails (.here _ _)
  | body henters hbody hfails => exact .later rfl hfails (.here _ _)

theorem fails_batchBody
    {callback : Context → Callback ρ V}
    (hcallback : ((callback ctx).outcome world.now world.store).result = .error why)
    (tx : Nat) :
    (batchBody pool callback ctx tx).Fails cutoff world why := by
  obtain ⟨entries, notes, -, hfill⟩ := (callback ctx).run_fill cutoff world
  unfold Work.Fails batchBody
  rw [Work.run_bind, hfill, hcallback]
  rfl

theorem fails_runBatch
    {callback : Context → Callback ρ V}
    (hcallback : ((callback ctx).outcome world.now world.store).result = .error why) :
    (pool.driver.runBatch ctx fun ctx => (callback ctx).run).Fails cutoff world why := by
  obtain ⟨entries, notes, -, hfill⟩ :=
    (callback ctx).run_fill cutoff { world with spans := "run_batch" :: world.spans }
  unfold Work.Fails Driver.runBatch
  rw [Work.run_inSpan, Work.run_bind, hfill, hcallback]
  rfl

/-- A batch in a transaction reports a failure with the root of that of its body. -/
theorem root_of_runBatchInTransaction
    {callback : Context → Callback ρ V}
    {tx : Nat}
    (henters : Enters pool ctx cutoff
      { world with spans := "run_batch_in_transaction" :: world.spans } inner tx start)
    (hbody : (batchBody pool callback inner tx).Fails cutoff start why)
    (hfails : (pool.driver.runBatchInTransaction ctx
      fun ctx => (callback ctx).run).run cutoff world = (.done (.error e), left)) :
    e.root = why.root := by
  rw [runBatchInTransaction_eq, Work.run_inSpan] at hfails
  exact root_of_transact henters hbody (congrArg Prod.fst hfails)

/-- A batch fails with the root of what its callback or its body ended with. -/
theorem Program.BatchFails.root_eq
    (hbatch : p.BatchFails pool ctx cutoff world why e rest left) :
    e.root = why.root := by
  cases hbatch with
  | outside hcallback hfails =>
      cases (congrArg Prod.fst hfails).symm.trans (fails_runBatch hcallback)
      rfl
  | callback henters hcallback hfails =>
      exact root_of_runBatchInTransaction henters (fails_batchBody hcallback _) hfails
  | body henters hbody hfails => exact root_of_runBatchInTransaction henters hbody hfails

/-- A call fails with the root of what its body failed with. -/
theorem Program.CallFails.root_eq
    (hcall : p.CallFails pool ctx cutoff world body inner limit start e rest left)
    (hbody : (body.run pool inner).Fails limit start cause) :
    e.root = cause.root := by
  cases hcall with
  | inTransaction henters hfails =>
      exact root_of_transact henters hbody (congrArg Prod.fst hfails)
  | withTransaction henters hfails =>
      have hending := ending_withTransaction henters fun _ ctx => body.run pool ctx
      rw [hfails] at hending
      cases hending.trans hbody
      rfl
  | under hfails =>
      cases (congrArg Prod.fst hfails).symm.trans hbody
      rfl
  | abandon hfails =>
      rw [Work.run_giveUpAt, run_eq_of_done hbody] at hfails
      cases hfails
      rfl

/-- An error that is followed down through a program is one that the program fails with. -/
theorem Program.FailsFrom.fails
    (hfrom : p.FailsFrom pool ctx cutoff world e why) :
    (p.run pool ctx).Fails cutoff world e := by
  cases hfrom with
  | itself hfails => exact hfails
  | batch hreaches hbatch hpassed =>
      unfold Work.Fails
      rw [hreaches.run_eq, hbatch.reaches.run_eq]
      exact hpassed
  | call hreaches hcall hbody hpassed =>
      unfold Work.Fails
      rw [hreaches.run_eq, hcall.reaches.run_eq]
      exact hpassed

/-- However deep an error comes from, it has the root of what it goes back to. -/
theorem Program.FailsFrom.root_eq
    (hfrom : p.FailsFrom pool ctx cutoff world e why) :
    e.root = why.root := by
  induction hfrom with
  | itself => rfl
  | batch _ hbatch => exact hbatch.root_eq
  | call _ hcall hbody _ ih => exact (hcall.root_eq hbody.fails).trans ih

/-- The first failure is never masked. An owner whose body failed reports the failure alone if its
rollback went well or had nothing to do, and else the failure joined with why the rollback failed;
it does not return before it knows. A call that found its transaction in the context ends as its
body does. So an error that was handed on through any calls has the root of what the innermost body
or callback ended with, and that is neither tagged by a statement nor joined to a rollback. -/
theorem first_failure_is_never_masked
    (free : Prop)
    (V : K → Type)
    (pool : AnyPool ρ) :
    (∀ {α : Type} (ctx inner : Context) (tx : Nat) (cutoff : Option Nat)
      (world start left : World (List PoolEvent) (Cells V))
      (body : Context → Nat → Work (List PoolEvent) (Cells V) (Except Error α)) (cause : Error),
      Enters pool ctx cutoff world inner tx start →
      (body inner tx).run cutoff start = (.done (.error cause), left) →
      let out := (pool.driver.transact ctx body).run cutoff world
      (ctx.tx = none →
        (∀ answer, RollbackAnswers pool inner tx cutoff left answer →
          out.1 = .done (.error (rollbackReport cause answer))) ∧
        ∀ result, out.1 = .done result →
          ∃ answer, RollbackAnswers pool inner tx cutoff left answer ∧
            result = .error (rollbackReport cause answer)) ∧
      (ctx.tx ≠ none → out = (.done (.error cause), left))) ∧
    (∀ {α : Type} (p : Program free ρ V α) (ctx : Context) (cutoff : Option Nat)
      (world : World (List PoolEvent) (Cells V)) (e why : Error),
      p.FailsFrom pool ctx cutoff world e why →
      (p.run pool ctx).Fails cutoff world e ∧ e.root = why.root) ∧
    ∀ e : Error, (∀ index source, e.root ≠ .statement index source) ∧
      ∀ cause why, e.root ≠ .rollback cause why := by
  refine ⟨fun ctx inner tx cutoff world start left body cause henters hbody => ?_,
    fun p ctx cutoff world e why hfrom => ⟨hfrom.fails, hfrom.root_eq⟩, Error.root_bare⟩
  intro out
  refine ⟨fun hctx => ?_, fun hctx => ?_⟩
  · have hending : out.1 = _ := ending_transact_own hctx henters hbody
    constructor
    · intro answer hanswers
      rw [hending, hanswers.ending]
    · intro result hdone
      rw [hending] at hdone
      exact rollbackAnswers_of_done hdone
  · cases henters with
    | joined htx =>
        have hout : out = (body ctx tx).run cutoff world := by
          rw [← transact_nested pool ctx htx body]
        exact hout.trans hbody
    | begun hnone => exact absurd hnone hctx

end Programs

section Runs

/-- A pool that never answers a rollback of its second transaction, and is gone before that of any
other. -/
def tornPool : AnyPool Unit where
  plain _ _ call :=
    match call with
    | .rollback 1 => .never
    | .rollback _ => .after 5 (.error (.connection "gone"))
    | _ => .after 0 (.ok ())
  rows _ _ _ := .never

/-- A rollback fails after a failure, and two of them after a failure in a transaction of its own
inside of another one. -/
theorem first_failure_is_never_masked_torn :
    let body : Context → Nat → Work (List PoolEvent) (Cells fun _ : Empty => Unit)
      (Except Error Unit) := fun _ _ => pure (.error (.statement 0 .noRows))
    let apart : Program True Unit (fun _ : Empty => Unit) Unit :=
      .under trivial { deadline := some 50 }
        (.inTransaction none (.ret (.error (.statement 0 .noRows))) .ret) .ret
    let p : Program True Unit (fun _ : Empty => Unit) Unit := .inTransaction none apart .ret
    let e : Error := .rollback
      (.rollback (.statement 0 .noRows)
        (.connection "deadline exceeded while waiting to roll back transaction"))
      (.connection "gone")
    (tornPool.driver.transact .empty body).Fails none bareWorld
        (.rollback (.statement 0 .noRows) (.connection "gone")) ∧
      (p.run tornPool .empty).Fails none bareWorld e ∧
      e.root = (Error.statement 0 .noRows).root := by
  intro body apart p e
  have hfrom : p.FailsFrom tornPool .empty none bareWorld e (.statement 0 .noRows) :=
    .call (.here _ _) (.inTransaction (.begun rfl rfl) rfl)
      (.call (.here _ _) (.under rfl)
        (.call (.here _ _) (.inTransaction (.begun rfl rfl) rfl) (.itself rfl) rfl) rfl) rfl
  obtain ⟨hframe, hroot, -⟩ := first_failure_is_never_masked True (fun _ : Empty => Unit) tornPool
  obtain ⟨hown, -⟩ := hframe .empty (Context.empty.derive 0) 0 none bareWorld (bareWorld.begun 0)
    (bareWorld.begun 0) body _ (.begun rfl rfl) rfl
  have hreply : tornPool.acknowledged (.rollback 0) none (bareWorld.begun 0).driver 0
      = some (5, .error (.connection "gone")) := rfl
  have hanswers : RollbackAnswers tornPool (Context.empty.derive 0) 0 none (bareWorld.begun 0)
      (.error (.connection "gone")) := .answered List.mem_cons_self hreply
  exact ⟨(hown rfl).1 _ hanswers, hroot p .empty none bareWorld e _ hfrom⟩

end Runs

end QueryBatch
