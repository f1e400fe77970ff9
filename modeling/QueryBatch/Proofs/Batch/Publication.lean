import QueryBatch.Proofs.Batch.Ownership
import QueryBatch.Proofs.Batch.Resolution

/-!
# Slots are filled before the commit

A batch in a transaction of its own fills its slots once its answers are checked, and its owner asks
for the commit only then. So the slots say nothing about the commit, but they say everything about
what came before it: they are filled exactly if the batch is `Complete`, and exactly then the owner
asks for a commit.

`ends_of_complete` and `ends_of_incomplete` tell the two cases apart. What the owner reports of its
commit is `commitReport`, which takes a transaction that is reported closed for committed.
-/

namespace QueryBatch

variable {ρ : Type} {K : Type} {V : K → Type}

section Defs

/-- Everything before the commit went well: the callback succeeded, and if it queued anything then
the answers came in time, one for each statement and each as expected. -/
def Complete
    (outcome : Callback.Outcome ρ V)
    (received : Option (Nat × Except DriverError (List (Answer ρ)))) : Prop :=
  outcome.result = .ok () ∧
    (outcome.queued ≠ [] → ∃ time answers, received = some (time, .ok answers) ∧
      List.Forall₂ (fun entry answer => entry.call.Meets answer) outcome.queued answers)

/-- Whether anything is sent once a callback returned. -/
def Callback.Outcome.sends (outcome : Callback.Outcome ρ V) : Bool :=
  outcome.result.isOk && !outcome.queued.isEmpty

/-- What happens at the pool between the callback and the end of the transaction. -/
def Callback.Outcome.events
    (outcome : Callback.Outcome ρ V)
    (tx : Nat)
    (received : Option (Nat × Except DriverError (List (Answer ρ)))) : List PoolEvent :=
  if outcome.sends then (PoolCall.sendIn tx outcome.statements).events received else []

/-- When the answers of a batch that began at a time are there. -/
def Callback.Outcome.answeredAt
    (outcome : Callback.Outcome ρ V)
    (time : Nat)
    (received : Option (Nat × Except DriverError (List (Answer ρ)))) : Nat :=
  if outcome.sends then received.elim time Prod.fst else time

/-- Why a batch is not complete, as its body ends then. -/
inductive Falls
    (outcome : Callback.Outcome ρ V)
    (deadline cutoff : Option Nat)
    (received : Option (Nat × Except DriverError (List (Answer ρ)))) :
    Ending (Except Error Unit) → Prop
  | callback
      (e : Error)
      (hresult : outcome.result = .error e) :
      Falls outcome deadline cutoff received (.done (.error e))
  | answers
      (ending : Ending (Except Error Unit))
      (hresult : outcome.result = .ok ())
      (hqueued : outcome.queued ≠ [])
      (hreported : Reported outcome.queued deadline cutoff received ending) :
      Falls outcome deadline cutoff received ending

/-- How a complete batch ends: its slots are as those of a batch outside of transactions with the
same answers, its owner asks for a commit, and success is told by the answer to that. -/
structure Commits [DecidableEq K]
    (pool : AnyPool ρ)
    (ctx : Context)
    (cutoff : Option Nat)
    (tx : Nat)
    (outcome : Callback.Outcome ρ V)
    (received : Option (Nat × Except DriverError (List (Answer ρ))))
    (begun : World (List PoolEvent) (Cells V))
    (out : Ending (Except Error Unit) × World (List PoolEvent) (Cells V)) : Prop where
  unchanged : outcome.queued = [] → out.2.store = outcome.cells
  filled : outcome.queued ≠ [] →
    Settled outcome.queued ctx.deadline cutoff received (.done (.ok ())) outcome.cells out.2.store
  ends : ∃ answer,
    answer = pool.acknowledged (.commit tx) (earliest ctx.deadline cutoff)
      (begun.driver ++ outcome.events tx received) (outcome.answeredAt begun.now received) ∧
    out.2.driver
      = begun.driver ++ outcome.events tx received ++ (PoolCall.commit tx).events answer ∧
    (out.1 = .done (.ok ()) ↔
      ∃ time, answer = some (time, .ok ()) ∨ answer = some (time, .error .txClosed)) ∧
    ∀ e, out.1 = .done (.error e) → e = .deadlineExceeded .commit ∨ ∃ source, e = .commit source

/-- How any other batch ends: its slots are as the callback left them, and if its body failed then
its owner asks for a rollback and reports the failure. -/
structure RollsBack
    (ctx : Context)
    (cutoff : Option Nat)
    (tx : Nat)
    (outcome : Callback.Outcome ρ V)
    (received : Option (Nat × Except DriverError (List (Answer ρ))))
    (begun : World (List PoolEvent) (Cells V))
    (out : Ending (Except Error Unit) × World (List PoolEvent) (Cells V)) : Prop where
  unchanged : out.2.store = outcome.cells
  fails : out.1 ≠ .done (.ok ())
  ends : ∃ ending last, Falls outcome ctx.deadline cutoff received ending ∧
    out.2.driver = begun.driver ++ outcome.events tx received ++ last ∧
    ((∃ cause, ending = .done (.error cause) ∧ Exchanged (.rollback tx) last ∧
        ∀ e, out.1 = .done (.error e) → e = cause ∨ ∃ source, e = .rollback cause source) ∨
      (ending = .cut ∨ ending = .stuck) ∧ out.1 = ending ∧ last = [.dropped tx])

end Defs

section Sending

variable {cutoff : Option Nat}

/-- Statements that are sent through an open handle are sent in the transaction. -/
theorem run_sendBatch_through
    {S : Type}
    {world : World (List PoolEvent) S}
    (pool : AnyPool ρ)
    (ctx : Context)
    (batch : Batch ρ S)
    {tx : Nat}
    (hopen : tx ∈ world.openTx) :
    (Driver.sendBatch ctx batch (pool.driver.sendThrough tx)).run cutoff world
      = (Driver.sendBatch ctx batch fun statements =>
          pool.askRows (.sendIn tx statements)).run cutoff world := by
  unfold Driver.sendBatch
  by_cases hempty : batch.isEmpty = true
  · rw [if_pos hempty, if_pos hempty]
  · obtain ⟨notes, hrecord⟩ := world.record_eq [("statements", toString batch.size)]
    rw [if_neg hempty, if_neg hempty]
    simp only [Work.run_bind, Work.run_change, Ending.andThen_done, hrecord]
    refine congrArg (fun out => Ending.andThen out _) ?_
    have hopen : tx ∈ ({ world with notes := notes } : World (List PoolEvent) S).openTx := hopen
    unfold within
    rw [run_until?, run_until?, run_sendThrough, if_pos hopen]

/-- A batch whose answers came ends at that time. -/
theorem now_sendBatch
    {S : Type}
    {world : World (List PoolEvent) S}
    (pool : AnyPool ρ)
    (ctx : Context)
    {batch : Batch ρ S}
    (hfilled : batch.entries ≠ [])
    (toCall : List Statement → PoolCall)
    {time : Nat}
    {answer : Answers ρ}
    (hreceived : pool.received (toCall batch.statements) (earliest ctx.deadline cutoff) world.driver
      world.now = some (time, answer)) :
    ((Driver.sendBatch ctx batch fun statements =>
      pool.askRows (toCall statements)).run cutoff world).2.now = time := by
  obtain ⟨notes, hrecord⟩ := world.record_eq [("statements", toString batch.size)]
  rw [run_sendBatch_filled pool ctx hfilled, hrecord, run_within_askRows, hreceived]
  cases answer with
  | error e => rfl
  | ok answers =>
      simp only [Ending.andThen_done, Batch.concluded]
      cases batch.resolve answers <;> rfl

end Sending

section Bodies

variable {outcome : Callback.Outcome ρ V}
variable {received : Option (Nat × Except DriverError (List (Answer ρ)))}

theorem Callback.Outcome.sends_eq_true
    (hresult : outcome.result = .ok ())
    (hqueued : outcome.queued ≠ []) :
    outcome.sends = true := by
  simp [sends, hresult, hqueued, Except.isOk, Except.toBool]

theorem Callback.Outcome.sends_of_error
    {e : Error}
    (hresult : outcome.result = .error e) :
    outcome.sends = false := by
  simp [sends, hresult, Except.isOk, Except.toBool]

theorem Callback.Outcome.sends_of_nil
    (hqueued : outcome.queued = []) :
    outcome.sends = false := by
  simp [sends, hqueued]

/-- The body of a batch in a transaction whose handle is open: what happens at the pool, and how it
ends. -/
structure BodyEnds [DecidableEq K]
    (ctx : Context)
    (cutoff : Option Nat)
    (tx : Nat)
    (outcome : Callback.Outcome ρ V)
    (received : Option (Nat × Except DriverError (List (Answer ρ))))
    (before : World (List PoolEvent) (Cells V))
    (out : Ending (Except Error Unit) × World (List PoolEvent) (Cells V)) : Prop where
  driver : out.2.driver = before.driver ++ outcome.events tx received
  complete : Complete outcome received → out.1 = .done (.ok ()) ∧
    out.2.now = outcome.answeredAt before.now received ∧
    (outcome.queued = [] → out.2.store = outcome.cells) ∧
    (outcome.queued ≠ [] → Settled outcome.queued ctx.deadline cutoff received (.done (.ok ()))
      outcome.cells out.2.store)
  incomplete : ¬ Complete outcome received →
    Falls outcome ctx.deadline cutoff received out.1 ∧ out.1 ≠ .done (.ok ()) ∧
      out.2.store = outcome.cells

/-- Once a batch was sent, it is complete exactly if it settles with success. -/
theorem complete_iff_settled
    [DecidableEq K]
    {deadline cutoff : Option Nat}
    {ending : Ending (Except Error Unit)}
    {before after : Cells V}
    (hresult : outcome.result = .ok ())
    (hqueued : outcome.queued ≠ [])
    (hsettled : Settled outcome.queued deadline cutoff received ending before after) :
    Complete outcome received ↔ ending = .done (.ok ()) := by
  rw [hsettled.succeeds]
  constructor
  · exact fun hcomplete => hcomplete.2 hqueued
  · exact fun hanswers => ⟨hresult, fun _ => hanswers⟩

/-- Sending what a callback queued ends as the answers say. -/
theorem sendBatch_ends
    [DecidableEq K]
    {cutoff : Option Nat}
    {world : World (List PoolEvent) (Cells V)}
    (pool : AnyPool ρ)
    (ctx : Context)
    {tx : Nat}
    (batch : Batch ρ (Cells V))
    (hopen : tx ∈ world.openTx)
    (hresult : outcome.result = .ok ())
    (hserved : List.Forall₂ Queued.Served outcome.queued batch.entries)
    (hcells : world.store = outcome.cells) :
    BodyEnds ctx cutoff tx outcome
      (pool.received (.sendIn tx outcome.statements) (earliest ctx.deadline cutoff) world.driver
        world.now) world
      ((Driver.sendBatch ctx batch (pool.driver.sendThrough tx)).run cutoff world) := by
  by_cases hqueued : outcome.queued = []
  · have hentries : batch.entries = [] := by
      rw [hqueued] at hserved
      exact List.forall₂_nil_left_iff.1 hserved
    have hsends := Callback.Outcome.sends_of_nil hqueued
    rw [run_sendBatch_empty ctx hentries]
    refine ⟨?_, fun _ => ?_, fun hincomplete => ?_⟩
    · simp [Callback.Outcome.events, hsends]
    · exact ⟨rfl, by simp [Callback.Outcome.answeredAt, hsends], fun _ => hcells,
        fun hfilled => absurd hqueued hfilled⟩
    · exact absurd ⟨hresult, fun hfilled => absurd hqueued hfilled⟩ hincomplete
  · have hsends := Callback.Outcome.sends_eq_true hresult hqueued
    have hstatements : batch.statements = outcome.statements := Queued.statements_eq hserved
    have hfilled : batch.entries ≠ [] := by
      intro hnil
      rw [hnil] at hserved
      exact hqueued (List.forall₂_nil_right_iff.1 hserved)
    obtain ⟨hdriver, hsettled⟩ :=
      sendBatch_settled pool ctx batch hserved hqueued (.sendIn tx) cutoff world
    have hnow : ∀ time answer, pool.received (.sendIn tx batch.statements)
        (earliest ctx.deadline cutoff) world.driver world.now = some (time, answer) → _ = time :=
      fun time answer => now_sendBatch pool ctx hfilled (.sendIn tx)
    rw [run_sendBatch_through pool ctx batch hopen]
    rw [hstatements] at hnow
    rw [hcells] at hsettled
    change Settled _ _ _ (pool.received (.sendIn tx outcome.statements) _ _ _) _ _ _ at hsettled
    have hcomplete := complete_iff_settled hresult hqueued hsettled
    refine ⟨?_, fun hgood => ?_, fun hbad => ?_⟩
    · rw [Callback.Outcome.events, if_pos hsends]
      exact hdriver
    · have hending := hcomplete.1 hgood
      obtain ⟨time, answers, hreceived, -⟩ := hgood.2 hqueued
      refine ⟨hending, ?_, fun hnone => absurd hnone hqueued, fun _ => hending ▸ hsettled⟩
      rw [hnow time _ hreceived]
      simp [Callback.Outcome.answeredAt, hsends, hreceived]
    · have hending := fun hok => hbad (hcomplete.2 hok)
      obtain ⟨hreported, hsame⟩ := hsettled.reports hending
      exact ⟨.answers _ hresult hqueued hreported, hending, hsame⟩

theorem batchBody_ends
    [DecidableEq K]
    {cutoff : Option Nat}
    {world : World (List PoolEvent) (Cells V)}
    (pool : AnyPool ρ)
    (callback : Context → Callback ρ V)
    (ctx : Context)
    {tx : Nat}
    (hopen : tx ∈ world.openTx) :
    let outcome := (callback ctx).outcome world.now world.store
    let received := pool.received (.sendIn tx outcome.statements) (earliest ctx.deadline cutoff)
      world.driver world.now
    BodyEnds ctx cutoff tx outcome received world
      ((batchBody pool callback ctx tx).run cutoff world) := by
  intro outcome received
  obtain ⟨entries, notes, hserved, hfill⟩ := (callback ctx).run_fill cutoff world
  let filled : World (List PoolEvent) (Cells V) :=
    { world with notes := notes, store := outcome.cells }
  change _ = (Ending.done ((fun _ => (⟨entries, true⟩ : Batch ρ (Cells V))) <$> outcome.result),
    filled) at hfill
  unfold batchBody
  rw [Work.run_bind, hfill, Ending.andThen_done]
  cases hresult : outcome.result with
  | error e =>
      have hevents : outcome.events tx received = [] := by
        simp [Callback.Outcome.events, Callback.Outcome.sends_of_error hresult]
      refine ⟨by rw [hevents, List.append_nil]; rfl, fun hcomplete => ?_, fun _ => ?_⟩
      · exact absurd hcomplete.1 (by simp [hresult])
      · exact ⟨.callback e hresult, by simp [Functor.map, Except.map], rfl⟩
  | ok _ =>
      have hopen : tx ∈ filled.openTx := hopen
      have hends : BodyEnds ctx cutoff tx outcome _ filled _ :=
        sendBatch_ends pool ctx ⟨entries, true⟩ hopen hresult hserved rfl
      exact ⟨hends.driver, hends.complete, hends.incomplete⟩

/-- Filling and sending a batch in a transaction sends there and does nothing else. -/
theorem keeps_batchBody
    [DecidableEq K]
    (pool : AnyPool ρ)
    (callback : Context → Callback ρ V)
    (ctx : Context)
    (tx : Nat) :
    (batchBody pool callback ctx tx).Keeps (Gains (PoolEvent.InTx tx)) :=
  keeps_batch frame_gains (callback ctx) (keeps_sendThrough pool tx) (fun _ => rfl) fun _ => rfl

end Bodies

section Owners

variable {S : Type} {cutoff : Option Nat} {world : World (List PoolEvent) S}
variable (pool : AnyPool ρ) (ctx : Context)

/-- An owner whose work succeeded asks for the commit, and the answer decides. -/
theorem run_finish_ok
    {tx : Nat}
    (hopen : tx ∈ world.openTx) :
    let answer :=
      pool.acknowledged (.commit tx) (earliest ctx.deadline cutoff) world.driver world.now
    let out := (pool.finish ctx tx (.ok () : Except Error Unit)).run cutoff world
    out.1 = answer.elim (unanswered ctx.deadline cutoff .commit)
        (fun reply => .done (commitReport reply.2)) ∧
      out.2.driver = world.driver ++ (PoolCall.commit tx).events answer ∧
      out.2.openTx = (world.closed tx).openTx ∧ out.2.store = world.store := by
  have hrun : (pool.finish ctx tx (.ok () : Except Error Unit)).run cutoff world
      = Ending.andThen ((pool.driver.commitOwned ctx tx).run cutoff world) _ := rfl
  rw [run_commitOwned, if_pos hopen] at hrun
  dsimp only
  rw [hrun]
  rcases pool.acknowledged (.commit tx) (earliest ctx.deadline cutoff) world.driver world.now
    with _ | ⟨time, reply⟩
  · dsimp only
    rw [andThen_unanswered fun _ _ => rfl]
    exact ⟨rfl, rfl, rfl, rfl⟩
  · rcases reply with (_ | _ | _) | _ <;> exact ⟨rfl, rfl, rfl, rfl⟩

/-- An owner whose work failed reports the failure, and with it that of the rollback. -/
theorem rollbackOwned_reports
    (tx : Nat)
    (cause : Error)
    {e : Error}
    (hdone : ((pool.driver.rollbackOwned ctx tx cause).run cutoff world).1 = .done e) :
    e = cause ∨ ∃ source, e = .rollback cause source := by
  unfold Driver.rollbackOwned at hdone
  rw [Work.run_bind, Work.run_change, Ending.andThen_done, Work.run_bind] at hdone
  generalize Work.run (withinGrace ctx Driver.rollbackGrace .rollback _) cutoff _ = out at hdone
  rcases out with ⟨(timeout | (_ | _ | _) | _) | _ | _, left⟩
  · exact .inr ⟨_, (Ending.done.inj hdone).symm⟩
  · exact .inl (Ending.done.inj hdone).symm
  · exact .inr ⟨_, (Ending.done.inj hdone).symm⟩
  · exact .inr ⟨_, (Ending.done.inj hdone).symm⟩
  · exact .inl (Ending.done.inj hdone).symm
  · cases hdone
  · cases hdone

theorem keeps_store_rollbackThrough
    (tx : Nat) :
    (pool.driver.rollbackThrough tx : Work (List PoolEvent) S _).Keeps
      fun before after => after.store = before.store := by
  intro cutoff world
  rw [run_rollbackThrough]
  split
  · rw [run_askPlain]
    cases pool.acknowledged (.rollback tx) cutoff (world.closed tx).driver (world.closed tx).now <;>
      rfl
  · rfl

theorem run_finish_error
    {α : Type}
    {tx : Nat}
    (hopen : tx ∈ world.openTx)
    (cause : Error) :
    let out := (pool.finish ctx tx (.error cause : Except Error α)).run cutoff world
    (∃ last, Exchanged (.rollback tx) last ∧ out.2.driver = world.driver ++ last) ∧
      out.2.openTx = (world.closed tx).openTx ∧ out.2.store = world.store ∧
      (∀ a, out.1 ≠ .done (.ok a)) ∧
      ∀ e, out.1 = .done (.error e) → e = cause ∨ ∃ source, e = .rollback cause source := by
  have hfinished := finish_finished pool ctx tx (.error cause : Except Error α) cutoff world
  have hstore := keeps_rollbackOwned pool ctx (fun _ _ hsame => hsame)
    (keeps_store_rollbackThrough pool tx) cause cutoff world
  have hreports :
      ∀ e, ((pool.driver.rollbackOwned ctx tx cause).run cutoff world).1 = .done e → _ :=
    fun e => rollbackOwned_reports pool ctx tx cause
  have hrun : (pool.finish ctx tx (.error cause : Except Error α)).run cutoff world
      = Ending.andThen ((pool.driver.rollbackOwned ctx tx cause).run cutoff world) _ := rfl
  refine ⟨hfinished.asked hopen, hfinished.openTx, ?_⟩
  rw [hrun]
  rcases hout : (pool.driver.rollbackOwned ctx tx cause).run cutoff world with ⟨e | _ | _, left⟩
  · rw [hout] at hstore
    refine ⟨hstore, fun a ha => absurd (Ending.done.inj ha) (by simp), fun e' he => ?_⟩
    obtain rfl := Except.error.inj (Ending.done.inj he)
    exact hreports _ (by rw [hout])
  · rw [hout] at hstore
    exact ⟨hstore, by simp, by simp⟩
  · rw [hout] at hstore
    exact ⟨hstore, by simp, by simp⟩

/-- An owner that waits for its commit succeeds if that is answered without an error, and also if
the transaction is reported closed. -/
theorem commit_reported
    (deadline cutoff : Option Nat)
    (answer : Option (Nat × Except DriverError Unit)) :
    let ending : Ending (Except Error Unit) :=
      answer.elim (unanswered deadline cutoff .commit) fun reply => .done (commitReport reply.2)
    (ending = .done (.ok ()) ↔
      ∃ time, answer = some (time, .ok ()) ∨ answer = some (time, .error .txClosed)) ∧
    ∀ e, ending = .done (.error e) →
      e = .deadlineExceeded .commit ∨ ∃ source, e = .commit source := by
  rcases answer with _ | ⟨time, reply⟩
  · refine ⟨⟨fun hok => absurd hok (unanswered_ne_ok deadline cutoff .commit ()), by simp⟩, ?_⟩
    intro e he
    simp only [Option.elim_none, unanswered] at he
    rcases deadline with _ | deadline <;> rcases cutoff with _ | limit
    · cases he
    · cases he
    · exact .inl (Except.error.inj (Ending.done.inj he)).symm
    · simp only at he
      split at he
      · exact .inl (Except.error.inj (Ending.done.inj he)).symm
      · cases he
  · rcases reply with (_ | _ | _) | _ <;> simp [commitReport, eq_comm]

/-- What the owner of a batch makes of the end of its body. -/
theorem own_batch_ends
    [DecidableEq K]
    {cutoff : Option Nat}
    {tx : Nat}
    {outcome : Callback.Outcome ρ V}
    {received : Option (Nat × Except DriverError (List (Answer ρ)))}
    {begun : World (List PoolEvent) (Cells V)}
    {body : Work (List PoolEvent) (Cells V) (Except Error Unit)}
    (hopen : tx ∈ (body.run cutoff begun).2.openTx)
    (hbody : BodyEnds ctx cutoff tx outcome received begun (body.run cutoff begun)) :
    let left := (body >>= pool.finish ctx tx).run cutoff begun
    let out := (left.1, pool.driver.dropHandle tx left.2)
    (Complete outcome received → Commits pool ctx cutoff tx outcome received begun out) ∧
      (¬ Complete outcome received → RollsBack ctx cutoff tx outcome received begun out) := by
  obtain ⟨hdriver, hcomplete, hincomplete⟩ := hbody
  dsimp only
  rw [Work.run_bind]
  generalize body.run cutoff begun = ran at hopen hdriver hcomplete hincomplete ⊢
  rcases ran with ⟨(cause | ⟨⟩) | _ | _, left⟩
  · obtain ⟨⟨last, hlast, hfinal⟩, hleft, hstore, hnone, hreports⟩ :=
      run_finish_error pool ctx hopen cause
    rw [Ending.andThen_done, dropHandle_closed pool tx hleft]
    refine ⟨fun hgood => absurd (hcomplete hgood).1 (by simp), fun hbad => ?_⟩
    obtain ⟨hfalls, -, hsame⟩ := hincomplete hbad
    refine ⟨hstore.trans hsame, hnone (), _, last, hfalls, ?_, .inl ⟨cause, rfl, hlast, hreports⟩⟩
    rw [hfinal, hdriver]
  · obtain ⟨hreport, hfinal, hleft, hstore⟩ :=
      run_finish_ok pool ctx hopen
    rw [Ending.andThen_done, dropHandle_closed pool tx hleft]
    refine ⟨fun hgood => ?_, fun hbad => absurd rfl (hincomplete hbad).2.1⟩
    obtain ⟨-, hnow, hunchanged, hfilled⟩ := hcomplete hgood
    refine ⟨fun hnil => hstore.trans (hunchanged hnil), fun hnonempty => ?_, _, rfl, ?_⟩
    · rw [hstore]
      exact hfilled hnonempty
    · rw [hdriver, hnow] at hfinal hreport
      rw [hreport]
      exact ⟨hfinal, commit_reported ctx.deadline cutoff _⟩
  · have hdropped := dropHandle_eq pool tx left
    rw [if_pos hopen] at hdropped
    rw [Ending.andThen_cut, hdropped]
    refine ⟨fun hgood => absurd (hcomplete hgood).1 (by simp), fun hbad => ?_⟩
    obtain ⟨hfalls, -, hsame⟩ := hincomplete hbad
    refine ⟨hsame, by simp, _, _, hfalls, ?_, .inr ⟨.inl rfl, rfl, rfl⟩⟩
    rw [World.driver_gain, World.driver_closed, hdriver]
  · have hdropped := dropHandle_eq pool tx left
    rw [if_pos hopen] at hdropped
    rw [Ending.andThen_stuck, hdropped]
    refine ⟨fun hgood => absurd (hcomplete hgood).1 (by simp), fun hbad => ?_⟩
    obtain ⟨hfalls, -, hsame⟩ := hincomplete hbad
    refine ⟨hsame, by simp, _, _, hfalls, ?_, .inr ⟨.inr rfl, rfl, rfl⟩⟩
    rw [World.driver_gain, World.driver_closed, hdriver]

end Owners

section Calls

variable [DecidableEq K]

/-- A batch in a transaction of its own, for every callback and every pool. If no transaction can be
begun, nothing else happens. Otherwise the batch commits if it is complete and rolls back if not, so
its slots are filled only in the first case, and any error but that of the commit leaves them as the
callback did. -/
theorem slots_are_filled_before_commit
    (pool : AnyPool ρ)
    {ctx : Context}
    (hctx : ctx.tx = none)
    (callback : Context → Callback ρ V)
    (cutoff : Option Nat)
    (world : World (List PoolEvent) (Cells V)) :
    let out :=
      (pool.driver.runBatchInTransaction ctx fun ctx => (callback ctx).run).run cutoff world
    match pool.acknowledged .begin (earliest ctx.deadline cutoff) world.driver world.now with
    | none =>
        out.1 = unanswered ctx.deadline cutoff .begin ∧
          out.2.driver = world.driver ++ [.asked .begin] ∧ out.2.store = world.store
    | some (_, .error e) =>
        out.1 = .done (.error (.begin e)) ∧
          out.2.driver = world.driver ++ [.asked .begin, .answered .begin (some e)] ∧
          out.2.store = world.store
    | some (time, .ok ()) =>
        let tx := world.newTx
        let begun := world.begun time
        let outcome := (callback (ctx.derive tx)).outcome time world.store
        let received := pool.received (.sendIn tx outcome.statements)
          (earliest ctx.deadline cutoff) begun.driver time
        (Complete outcome received → Commits pool ctx cutoff tx outcome received begun out) ∧
        (¬ Complete outcome received → RollsBack ctx cutoff tx outcome received begun out) ∧
        ∀ e, out.1 = .done (.error e) → out.2.store ≠ outcome.cells →
          e = .deadlineExceeded .commit ∨ ∃ source, e = .commit source := by
  rw [runBatchInTransaction_eq, Work.run_inSpan, run_transact pool ctx hctx,
    run_withTransaction pool ctx hctx]
  dsimp only
  rcases pool.acknowledged .begin (earliest ctx.deadline cutoff) world.driver world.now
    with _ | ⟨time, e | ⟨⟩⟩
  · exact ⟨rfl, rfl, rfl⟩
  · exact ⟨rfl, rfl, rfl⟩
  · -- the span that the call opens is seen by nobody below
    let entered : World (List PoolEvent) (Cells V) :=
      { world with spans := "run_batch_in_transaction" :: world.spans }
    have hbegun : world.newTx ∈ (entered.begun time).openTx := List.mem_cons_self
    have hopen := (keeps_batchBody pool callback (ctx.derive world.newTx) world.newTx cutoff
      (entered.begun time)).openTx ▸ hbegun
    obtain ⟨hcommits, hrollsBack⟩ := own_batch_ends pool (ctx.derive world.newTx) hopen
      (batchBody_ends pool callback (ctx.derive world.newTx) hbegun)
    refine ⟨fun hgood => ?_, fun hbad => ?_, fun e he hchanged => ?_⟩
    · have hends := hcommits hgood
      exact ⟨hends.unchanged, hends.filled, hends.ends⟩
    · have hends := hrollsBack hbad
      exact ⟨hends.unchanged, hends.fails, hends.ends⟩
    · have hgood := not_imp_comm.1 (fun hbad => (hrollsBack hbad).unchanged) hchanged
      obtain ⟨answer, -, -, -, herror⟩ := (hcommits hgood).ends
      exact herror e he

end Calls

section Runs

/-- A pool that agrees at once to everything, and answers commits in its own way. -/
def committingPool (answer : Except DriverError Unit) : AnyPool Unit where
  plain _ _ call :=
    match call with
    | .commit _ => .after 0 answer
    | _ => .after 0 (.ok ())
  rows _ _ _ := .after 0 (.ok [.affected 1])

/-- The cells of a caller that counts affected rows. -/
abbrev RowCount : Unit → Type := fun _ => Nat

/-- A world in which nothing has happened yet and nothing was counted. -/
def uncounted : World (List PoolEvent) (Cells RowCount) where
  now := 0
  spans := []
  notes := []
  openTx := []
  driver := []
  store := fun _ => none

/-- Queue one statement and count the rows that it affects. -/
def countRows : Context → Callback Unit RowCount :=
  fun _ => .queue (.exec ⟨"DELETE FROM a", .none, (none : Option (Decoder Unit Unit)), .exec⟩
    (some ⟨(), rfl⟩)) fun result => .finish result

/-- A pool that fails to commit: the call tells so, and what was counted stays. -/
theorem slots_are_filled_before_failed_commit :
    let pool := committingPool (.error (.connection "lost"))
    let out := (pool.driver.runBatchInTransaction .empty fun ctx => (countRows ctx).run).run none
      uncounted
    let outcome := (countRows (Context.empty.derive 0)).outcome 0 uncounted.store
    let received := pool.received (.sendIn 0 outcome.statements) none (uncounted.begun 0).driver 0
    Context.empty.tx = none ∧ Complete outcome received ∧
      Commits pool .empty none 0 outcome received (uncounted.begun 0) out ∧
      out.1 = .done (.error (.commit (.connection "lost"))) ∧ out.2.store () = some 1 := by
  intro pool out outcome received
  obtain ⟨hcommits, -⟩ :=
    slots_are_filled_before_commit pool (show Context.empty.tx = none from rfl) countRows none
      uncounted
  have hcomplete : Complete outcome received :=
    ⟨rfl, fun _ => ⟨0, [.affected 1], rfl, .cons nofun .nil⟩⟩
  exact ⟨rfl, hcomplete, hcommits hcomplete, rfl, rfl⟩

/-- The pool takes the transaction for closed when it is asked for the commit. The call succeeds
then, with its slot filled, although the commit was answered with an error. -/
theorem batch_succeeds_after_closed_commit :
    let out := ((committingPool (.error .txClosed)).driver.runBatchInTransaction .empty
      fun ctx => (countRows ctx).run).run none uncounted
    out.1 = .done (.ok ()) ∧ uncounted.store () = none ∧ out.2.store () = some 1 ∧
      ∃ statements, out.2.driver = [.asked .begin, .answered .begin none, .began 0,
        .asked (.sendIn 0 statements), .answered (.sendIn 0 statements) none,
        .asked (.commit 0), .answered (.commit 0) (some .txClosed)] :=
  ⟨rfl, rfl, rfl, _, rfl⟩

end Runs

end QueryBatch
