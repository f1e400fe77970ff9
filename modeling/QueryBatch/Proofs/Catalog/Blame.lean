import QueryBatch.Proofs.Batch.Reports
import QueryBatch.Proofs.Catalog.Offenders

/-!
# Which code a creation blames

What a creation sends and what it reports, for every pool: with a transaction in its context or
without one, under a deadline, and wherever its run is cut off from outside. `creationBody_posted`
says how its statements fare in an open transaction, `callEnds_creationCall` what the call around
them makes of that, and `run_create` that the creation adds nothing but the code to blame.
-/

namespace QueryBatch
namespace Catalog

open Exercise.Query

variable {ρ S : Type}

section Defs

/-- The work of a creation in a transaction. -/
def creationBody (pool : AnyPool ρ) (reading : Reading ρ) (id : Uuid) (exercise : NewExercise)
    (ctx : Context) (tx : Nat) :
    Work (List PoolEvent) (Option Exercise) (Except QueryBatch.Error Unit) := do
  Work.change fun world =>
    { world with notes := filledNotes (creationQueue reading id exercise) world }
  Driver.sendBatch ctx (creationBatch reading id exercise) (pool.driver.sendThrough tx)

/-- The call that sends the batch of a creation. -/
def creationCall (pool : AnyPool ρ) (reading : Reading ρ) (id : Uuid) (exercise : NewExercise)
    (ctx : Context) : Work (List PoolEvent) (Option Exercise) (Except QueryBatch.Error Unit) :=
  pool.driver.runBatchInTransaction ctx fun _ => creationQueue reading id exercise

/-- The work of a creation in a transaction: its statements are sent, and it fails at a statement
exactly if the answers are complete and the one to that statement is the first failure. -/
structure Posted (pool : AnyPool ρ) (reading : Reading ρ) (id : Uuid) (exercise : NewExercise)
    (limit : Option Nat) (start : Start) (openTx : List Nat)
    (out : Ending (Except QueryBatch.Error Unit) × World (List PoolEvent) (Option Exercise)) :
    Prop where
  driver : out.2.driver = start.log
    ++ (PoolCall.sendIn start.tx (creationStatements id exercise)).events
      (start.received pool limit (creationStatements id exercise))
  openTx : out.2.openTx = openTx
  now : ∀ time answer, start.received pool limit (creationStatements id exercise)
    = some (time, answer) → out.2.now = time
  fails : ∀ index source, out.1 = .done (.error (.statement index source)) ↔
    ∃ time answers, start.Answered pool limit (creationStatements id exercise) time answers ∧
      FirstFailure reading (insertions id exercise) answers index source
  fills : out.1 = .done (.ok ()) → ∃ created, out.2.store = some created

/-- How the call ends that sends the batch of a creation. It fails at a statement exactly if that is
the first failure and its rollback, if it has one to make, did not fail either. -/
structure CallEnds (pool : AnyPool ρ) (reading : Reading ρ) (id : Uuid) (exercise : NewExercise)
    (ctx : Context) (cutoff : Option Nat) (world : World (List PoolEvent) (Option Exercise))
    (out : Ending (Except QueryBatch.Error Unit) × World (List PoolEvent) (Option Exercise)) :
    Prop where
  sends : ∃ gained, out.2.driver = world.driver ++ gained ∧
    gained.filterMap sent? = (start? pool ctx cutoff world).toList.map fun start =>
      (some start.tx, creationStatements id exercise)
  fails : ∀ index source, out.1 = .done (.error (.statement index source)) ↔
    ∃ start time answers, start? pool ctx cutoff world = some start ∧
      start.Answered pool (earliest ctx.deadline cutoff) (creationStatements id exercise) time
        answers ∧
      FirstFailure reading (insertions id exercise) answers index source ∧
      (ctx.tx = none → RollbackSucceeds pool ctx.deadline cutoff start.tx
        (start.answeredLog (creationStatements id exercise)) time)
  reports : ∀ start time answers index source result, start? pool ctx cutoff world = some start →
    start.Answered pool (earliest ctx.deadline cutoff) (creationStatements id exercise) time
      answers →
    FirstFailure reading (insertions id exercise) answers index source → out.1 = .done result →
    ∃ e, result = .error e ∧
      (e = .statement index source ∨ ∃ why, e = .rollback (.statement index source) why)
  fills : out.1 = .done (.ok ()) → ∃ created, out.2.store = some created

/-- The world that the batch of a creation is run in, with a store of its own. -/
def creating (world : World (List PoolEvent) S) : World (List PoolEvent) (Option Exercise) where
  now := world.now
  spans := "create_exercise" :: world.spans
  notes := world.notes
  openTx := world.openTx
  driver := world.driver
  store := none

/-- What a creation makes of the end of its batch. -/
def concluded (id : Uuid) (parts : List Insertion) :
    Ending (Except QueryBatch.Error Unit) → Option Exercise → Ending (Except Error Exercise)
  | .done (.ok ()), some created => .done (.ok created)
  | .done (.ok ()), none => .done (.error (.notFound id))
  | .done (.error e), _ => .done (.error (blame parts e))
  | .cut, _ => .cut
  | .stuck, _ => .stuck

end Defs

section Bodies

variable (pool : AnyPool ρ) (reading : Reading ρ) (id : Uuid) (exercise : NewExercise)
variable (ctx : Context) {cutoff : Option Nat} {tx : Nat}
variable {world : World (List PoolEvent) (Option Exercise)}

theorem creationCall_eq :
    creationCall pool reading id exercise ctx
      = Work.inSpan "run_batch_in_transaction"
          (pool.driver.transact ctx (creationBody pool reading id exercise)) := by
  unfold creationCall Driver.runBatchInTransaction
  simp only [fill_creation]
  rfl

/-- The work of a creation in a transaction whose handle is open. -/
theorem creationBody_posted
    (hopen : tx ∈ world.openTx) :
    Posted pool reading id exercise (earliest ctx.deadline cutoff)
      ⟨tx, world.driver, world.now⟩ world.openTx
      ((creationBody pool reading id exercise ctx tx).run cutoff world) := by
  let noted := { world with notes := filledNotes (creationQueue reading id exercise) world }
  have hopen : tx ∈ noted.openTx := hopen
  have hfilled : (creationBatch reading id exercise).entries ≠ [] := by simp [creationBatch]
  have hthrough : (creationBody pool reading id exercise ctx tx).run cutoff world
      = (Driver.sendBatch ctx (creationBatch reading id exercise)
          (pool.driver.sendThrough tx)).run cutoff noted := by
    unfold creationBody
    rw [Work.run_bind, Work.run_change, Ending.andThen_done]
  have hkept : ((creationBody pool reading id exercise ctx tx).run cutoff world).2.openTx
      = noted.openTx := by
    rw [hthrough]
    exact (keeps_sendBatch ctx frame_gains _ (keeps_sendThrough pool tx) cutoff noted).openTx
  have hbody := hthrough.trans (run_sendBatch_through pool ctx _ hopen)
  obtain ⟨hdriver, -⟩ := run_sendBatch pool ctx hfilled (.sendIn tx) cutoff noted
  obtain ⟨hends, hstores⟩ := sendBatch_resolves pool ctx hfilled (.sendIn tx) cutoff noted
  have hnow : ∀ time answer, pool.received (.sendIn tx
      (creationBatch reading id exercise).statements) (earliest ctx.deadline cutoff) noted.driver
        noted.now = some (time, answer) → _ = time :=
    fun time answer => now_sendBatch pool ctx hfilled (.sendIn tx)
  rw [← hbody, statements_creationBatch] at hdriver hends hnow
  rw [← hbody] at hstores
  refine ⟨hdriver, hkept, hnow, fun index source => ?_, fun hok => ?_⟩
  · rw [hends]
    constructor
    · rintro ⟨time, answers, hreceived, hresolve⟩
      obtain ⟨hcomplete, hfirst⟩ :=
        ((resolve_creationBatch reading id answers exercise).1 _ _).1 hresolve
      exact ⟨time, answers, ⟨hreceived, hcomplete⟩, hfirst⟩
    · rintro ⟨time, answers, hanswered, hfirst⟩
      exact ⟨time, answers, hanswered.received,
        ((resolve_creationBatch reading id answers exercise).1 _ _).2 ⟨hanswered.complete, hfirst⟩⟩
  · obtain ⟨answers, change, hresolve, hstore⟩ := hstores hok
    rw [hstore]
    exact (resolve_creationBatch reading id answers exercise).2 change hresolve noted.store

end Bodies

section Calls

variable {pool : AnyPool ρ} {reading : Reading ρ} {id : Uuid} {exercise : NewExercise}
variable {ctx : Context} {cutoff : Option Nat} {tx : Nat}
variable {world : World (List PoolEvent) (Option Exercise)}
variable {out : Ending (Except QueryBatch.Error Unit) × World (List PoolEvent) (Option Exercise)}

/-- A call that has nowhere to send its batch does not get to its statements. -/
theorem callEnds_of_none
    {gained : List PoolEvent}
    (hnone : start? pool ctx cutoff world = none)
    (hdriver : out.2.driver = world.driver ++ gained)
    (hgained : gained.filterMap sent? = [])
    (hfails : ∀ index source, out.1 ≠ .done (.error (.statement index source)))
    (hok : out.1 ≠ .done (.ok ())) :
    CallEnds pool reading id exercise ctx cutoff world out where
  sends := ⟨gained, hdriver, by rw [hgained, hnone]; rfl⟩
  fails index source := by simp [hnone, hfails]
  reports start time answers index source result hstart := by simp [hnone] at hstart
  fills h := absurd h hok

/-- Once all answers are there, they are the last thing in the log and it is their time. -/
theorem Posted.answered
    {limit : Option Nat}
    {start : Start}
    {openTx : List Nat}
    (hposted : Posted pool reading id exercise limit start openTx out)
    {time : Nat}
    {answers : List (Answer ρ)}
    (hanswered : start.Answered pool limit (creationStatements id exercise) time answers) :
    out.2.driver = start.answeredLog (creationStatements id exercise) ∧ out.2.now = time := by
  have hdriver := hposted.driver
  rw [hanswered.received] at hdriver
  exact ⟨hdriver, hposted.now _ _ hanswered.received⟩

/-- In the transaction of its context the batch is all that the call makes. -/
theorem Posted.callEnds
    (htx : ctx.tx = some tx)
    (hopen : tx ∈ world.openTx)
    (hposted : Posted pool reading id exercise (earliest ctx.deadline cutoff)
      ⟨tx, world.driver, world.now⟩ world.openTx out) :
    CallEnds pool reading id exercise ctx cutoff world out := by
  have hstart : start? pool ctx cutoff world = some ⟨tx, world.driver, world.now⟩ := by
    simp [start?, htx, hopen]
  have howned : ctx.tx ≠ none := by simp [htx]
  refine ⟨⟨_, hposted.driver, ?_⟩, fun index source => ?_, ?_, hposted.fills⟩
  · rw [sent_events, hstart]
    rfl
  · rw [hposted.fails, hstart]
    constructor
    · rintro ⟨time, answers, hanswered, hfirst⟩
      exact ⟨_, time, answers, rfl, hanswered, hfirst, fun h => absurd h howned⟩
    · rintro ⟨_, time, answers, hsame, hanswered, hfirst, -⟩
      cases hsame
      exact ⟨time, answers, hanswered, hfirst⟩
  · intro start time answers index source result hsame hanswered hfirst hresult
    obtain rfl := Option.some.inj (hstart.symm.trans hsame)
    have hfailed := (hposted.fails index source).2 ⟨time, answers, hanswered, hfirst⟩
    exact ⟨_, Ending.done.inj (hresult.symm.trans hfailed), .inl rfl⟩

/-- In a transaction of its own the call rolls back after a failure. -/
theorem callEnds_own
    (htx : ctx.tx = none)
    {time : Nat}
    (hbegun : pool.acknowledged .begin (earliest ctx.deadline cutoff) world.driver world.now
      = some (time, .ok ())) :
    let left := (creationBody pool reading id exercise (ctx.derive world.newTx) world.newTx
      >>= pool.finish (ctx.derive world.newTx) world.newTx).run cutoff (world.begun time)
    CallEnds pool reading id exercise ctx cutoff world
      (left.1, pool.driver.dropHandle world.newTx left.2) := by
  intro left
  let start : Start := ⟨world.newTx, (world.begun time).driver, time⟩
  let statements := creationStatements id exercise
  let ran := (creationBody pool reading id exercise (ctx.derive world.newTx) world.newTx).run cutoff
    (world.begun time)
  have hstart : start? pool ctx cutoff world = some start := by
    simp [start?, htx, hbegun, start]
  have hopen : world.newTx ∈ (world.begun time).openTx := List.mem_cons_self
  have hposted : Posted pool reading id exercise (earliest ctx.deadline cutoff) start
      (world.begun time).openTx ran :=
    creationBody_posted pool reading id exercise (ctx.derive world.newTx) hopen
  obtain ⟨⟨last, hlast, hsilent⟩, hstore, hok, hfails, hreports⟩ :=
    owner_ends pool (ctx.derive world.newTx) (hposted.openTx ▸ hopen)
  refine ⟨⟨[.asked .begin, .answered .begin none, .began world.newTx]
    ++ (PoolCall.sendIn start.tx statements).events
      (start.received pool (earliest ctx.deadline cutoff) statements) ++ last, ?_, ?_⟩,
    fun index source => (hfails index source).trans ?_, ?_, fun h => ?_⟩
  · rw [← List.append_assoc, ← List.append_assoc]
    exact hlast.trans (congrArg (· ++ last) hposted.driver)
  · rw [List.filterMap_append, List.filterMap_append, sent_events, hsilent, hstart]
    rfl
  · constructor
    · rintro ⟨hfailed, hsucceeds⟩
      obtain ⟨later, answers, hanswered, hfirst⟩ := (hposted.fails index source).1 hfailed
      obtain ⟨hdriver, hnow⟩ := hposted.answered hanswered
      change RollbackSucceeds _ _ _ _ ran.2.driver ran.2.now at hsucceeds
      rw [hdriver, hnow] at hsucceeds
      exact ⟨start, later, answers, hstart, hanswered, hfirst, fun _ => hsucceeds⟩
    · rintro ⟨_, later, answers, hsame, hanswered, hfirst, hsucceeds⟩
      obtain rfl := Option.some.inj (hstart.symm.trans hsame)
      obtain ⟨hdriver, hnow⟩ := hposted.answered hanswered
      refine ⟨(hposted.fails index source).2 ⟨later, answers, hanswered, hfirst⟩, ?_⟩
      change RollbackSucceeds _ _ _ _ ran.2.driver ran.2.now
      rw [hdriver, hnow]
      exact hsucceeds htx
  · intro _ later answers index source result hsame hanswered hfirst hresult
    obtain rfl := Option.some.inj (hstart.symm.trans hsame)
    have hfailed := (hposted.fails index source).2 ⟨later, answers, hanswered, hfirst⟩
    exact hreports _ result hfailed hresult
  · obtain ⟨created, hcreated⟩ := hposted.fills (hok h)
    exact ⟨created, hstore.trans hcreated⟩

/-- Nothing is sent through a closed handle. -/
theorem callEnds_closed
    (htx : ctx.tx = some tx)
    (hclosed : tx ∉ world.openTx) :
    CallEnds pool reading id exercise ctx cutoff world
      ((creationBody pool reading id exercise ctx tx).run cutoff world) := by
  let noted := { world with notes := filledNotes (creationQueue reading id exercise) world }
  obtain ⟨notes, hrecord⟩ := noted.record_eq
    [("statements", toString (creationBatch reading id exercise).size)]
  have hthrough : (pool.driver.sendThrough tx (creationBatch reading id exercise).statements).run
      (earliest ctx.deadline cutoff) { noted with notes := notes }
        = (.done (.error .txClosed), { noted with notes := notes }) := by
    rw [run_sendThrough, if_neg hclosed]
  have hrun : (creationBody pool reading id exercise ctx tx).run cutoff world
      = (.done (.error (.send .txClosed)), { noted with notes := notes }) := by
    unfold creationBody Driver.sendBatch
    rw [if_neg (by simp [Batch.isEmpty, creationBatch])]
    simp only [Work.run_bind, Work.run_change, Ending.andThen_done]
    rw [hrecord, within, until?_answered hthrough]
    rfl
  rw [hrun]
  refine callEnds_of_none ?_ (List.append_nil _).symm rfl (by simp) (by simp)
  simp [start?, htx, hclosed]

/-- The call that sends the batch of a creation ends so for every pool, and in whatever transaction
the context carries. -/
theorem callEnds_creationCall
    (pool : AnyPool ρ)
    (reading : Reading ρ)
    (id : Uuid)
    (exercise : NewExercise)
    (ctx : Context)
    (cutoff : Option Nat)
    (world : World (List PoolEvent) (Option Exercise)) :
    CallEnds pool reading id exercise ctx cutoff world
      ((creationCall pool reading id exercise ctx).run cutoff world) := by
  -- the span that the call opens is seen by nobody below
  let entered := { world with spans := "run_batch_in_transaction" :: world.spans }
  have hinner : CallEnds pool reading id exercise ctx cutoff entered
      ((pool.driver.transact ctx (creationBody pool reading id exercise)).run cutoff entered) := by
    cases htx : ctx.tx with
    | some tx =>
        rw [transact_nested pool ctx htx]
        by_cases hopen : tx ∈ entered.openTx
        · exact (creationBody_posted pool reading id exercise ctx hopen).callEnds htx hopen
        · exact callEnds_closed htx hopen
    | none =>
        rw [run_transact pool ctx htx, run_withTransaction pool ctx htx]
        rcases hbegun : pool.acknowledged .begin (earliest ctx.deadline cutoff) entered.driver
          entered.now with _ | ⟨time, e | ⟨⟩⟩
        · refine callEnds_of_none ?_ (World.driver_gain _) rfl ?_ (unanswered_ne_ok _ _ _ _)
          · simp [start?, htx, hbegun]
          · exact fun index source h => absurd (eq_of_unanswered h) (by simp)
        · refine callEnds_of_none ?_ (World.driver_gain _) rfl (by simp) (by simp)
          simp [start?, htx, hbegun]
        · exact callEnds_own htx hbegun
  rw [creationCall_eq, Work.run_inSpan]
  exact ⟨hinner.sends, hinner.fails, hinner.reports, hinner.fills⟩

end Calls

section Creations

variable (pool : AnyPool ρ) (reading : Reading ρ) (ctx : Context) (id : Uuid)
variable (exercise : NewExercise) (cutoff : Option Nat) (world : World (List PoolEvent) S)

/-- Once the batch fills the slot whenever it succeeds, a creation fails only with it. -/
theorem concluded_eq_error_iff
    {parts : List Insertion}
    {ending : Ending (Except QueryBatch.Error Unit)}
    {store : Option Exercise}
    (hfills : ending = .done (.ok ()) → ∃ created, store = some created)
    {reported : Error} :
    concluded id parts ending store = .done (.error reported) ↔
      ∃ e, ending = .done (.error e) ∧ blame parts e = reported := by
  rcases ending with (e | ⟨⟩) | _ | _
  · simp [concluded]
  · obtain ⟨created, rfl⟩ := hfills rfl
    simp [concluded]
  · simp [concluded]
  · simp [concluded]

/-- A creation reports what its batch tells, and does nothing else at the pool. -/
theorem run_create :
    let batch := (creationCall pool reading id exercise ctx).run cutoff (creating world)
    let out := (create pool.driver reading ctx id exercise).run cutoff world
    out.1 = concluded id (insertions id exercise) batch.1 batch.2.store ∧
      out.2.driver = batch.2.driver := by
  unfold create
  dsimp only
  generalize hcall : pool.driver.runBatchInTransaction ctx _ = call
  have hsame : creationCall pool reading id exercise ctx = call := hcall
  rw [hsame]
  simp only [Work.run_inSpan, collected, Work.run_bind]
  unfold Work.run Work.withStore creating
  dsimp only
  generalize call cutoff _ = batch
  rcases batch with ⟨(e | ⟨⟩) | _ | _, left⟩
  · exact ⟨rfl, rfl⟩
  · rcases left with ⟨now, spans, notes, openTx, driver, _ | created⟩ <;> exact ⟨rfl, rfl⟩
  · exact ⟨rfl, rfl⟩
  · exact ⟨rfl, rfl⟩

/-- A creation fails exactly if its batch does, and blames what that fails with. -/
theorem create_eq_error_iff
    (reported : Error) :
    ((create pool.driver reading ctx id exercise).run cutoff world).1 = .done (.error reported) ↔
      ∃ e, ((creationCall pool reading id exercise ctx).run cutoff (creating world)).1
          = .done (.error e) ∧ blame (insertions id exercise) e = reported := by
  have hends := callEnds_creationCall pool reading id exercise ctx cutoff (creating world)
  obtain ⟨hout, -⟩ := run_create pool reading ctx id exercise cutoff world
  rw [← concluded_eq_error_iff id hends.fills]
  exact Eq.congr_left hout

/-- A creation that returns although one of its statements failed blames the code of that statement,
or reports the failure of the statement, alone or joined with that of the rollback. -/
theorem create_firstFailure
    {start : Start}
    {time index : Nat}
    {answers : List (Answer ρ)}
    {source : QueryBatch.Error}
    {result : Except Error Exercise}
    (hstart : start? pool ctx cutoff world = some start)
    (hanswered : start.Answered pool (earliest ctx.deadline cutoff)
      (creationStatements id exercise) time answers)
    (hfirst : FirstFailure reading (insertions id exercise) answers index source)
    (hresult : ((create pool.driver reading ctx id exercise).run cutoff world).1 = .done result) :
    (∃ part, (insertions id exercise)[index]? = some part ∧ source = .rowsAffected 0 ∧
      result = .error (.unknownCode part.kind part.code)) ∨
    ∃ e, result = .error (.execution e) ∧
      (e = .statement index source ∨ ∃ why, e = .rollback (.statement index source) why) := by
  have hends := callEnds_creationCall pool reading id exercise ctx cutoff (creating world)
  obtain ⟨hout, -⟩ := run_create pool reading ctx id exercise cutoff world
  cases hbatch :
      ((creationCall pool reading id exercise ctx).run cutoff (creating world)).1 with
  | done batched =>
      obtain ⟨e, rfl, he⟩ :=
        hends.reports start time answers index source batched hstart hanswered hfirst hbatch
      have hreported := (create_eq_error_iff pool reading ctx id exercise cutoff world _).2
        ⟨e, hbatch, rfl⟩
      obtain rfl := Ending.done.inj (hreported.symm.trans hresult)
      rcases blame_cases (insertions id exercise) e with
        ⟨index', part, rfl, hpart, hblame⟩ | ⟨hblame, -⟩
      · rcases he with he | ⟨why, hwhy⟩
        · cases he
          exact .inl ⟨part, hpart, rfl, congrArg Except.error hblame⟩
        · cases hwhy
      · exact .inr ⟨e, congrArg Except.error hblame, he⟩
  | cut =>
      rw [hresult, hbatch] at hout
      cases hout
  | stuck =>
      rw [hresult, hbatch] at hout
      cases hout

/-- A creation sends one batch, wherever it has a transaction to send it in: the insertion that
looks the category up, a link for each distinct code in the order of first occurrence, kind by kind,
and the statement that reads the exercise back. It reports an unknown code exactly if the answers
arrive, the first that is not as expected is that to an insertion of no row, and its own rollback,
if it has one to make, does not fail; the code is the one of that insertion. All other failures are
reported as the batch has them, and that an exercise is not found is never one of them. -/
theorem creation_blames_first_unknown_code :
    let parts := insertions id exercise
    let statements := creationStatements id exercise
    let limit := earliest ctx.deadline cutoff
    let batch := (creationCall pool reading id exercise ctx).run cutoff (creating world)
    let out := (create pool.driver reading ctx id exercise).run cutoff world
    InOrder id exercise parts ∧
    statements = parts.map (fun part => ⟨part.request.bound, .exec⟩)
      ++ [⟨(byId id).bound, .query⟩] ∧
    (∃ gained, out.2.driver = world.driver ++ gained ∧
      gained.filterMap sent? = (start? pool ctx cutoff world).toList.map fun start =>
        (some start.tx, statements)) ∧
    (∀ kind code, out.1 = .done (.error (.unknownCode kind code)) ↔
      ∃ start time answers index part, start? pool ctx cutoff world = some start ∧
        start.Answered pool limit statements time answers ∧
        FirstFailure reading parts answers index (.rowsAffected 0) ∧
        parts[index]? = some part ∧ part.kind = kind ∧ part.code = code ∧
        (ctx.tx = none → RollbackSucceeds pool ctx.deadline cutoff start.tx
          (start.answeredLog statements) time)) ∧
    (∀ start time answers index source result, start? pool ctx cutoff world = some start →
      start.Answered pool limit statements time answers →
      FirstFailure reading parts answers index source → out.1 = .done result →
      (∃ part, parts[index]? = some part ∧ source = .rowsAffected 0 ∧
        result = .error (.unknownCode part.kind part.code)) ∨
      ∃ e, result = .error (.execution e) ∧
        (e = .statement index source ∨ ∃ why, e = .rollback (.statement index source) why)) ∧
    (∀ e, out.1 = .done (.error (.execution e)) ↔ batch.1 = .done (.error e) ∧
      ∀ kind code, out.1 ≠ .done (.error (.unknownCode kind code))) ∧
    ∀ missing, out.1 ≠ .done (.error (.notFound missing)) := by
  intro parts statements limit batch out
  have hends : CallEnds pool reading id exercise ctx cutoff (creating world) batch :=
    callEnds_creationCall pool reading id exercise ctx cutoff (creating world)
  have herror : ∀ reported, out.1 = .done (.error reported) ↔
      ∃ e, batch.1 = .done (.error e) ∧ blame parts e = reported :=
    create_eq_error_iff pool reading ctx id exercise cutoff world
  refine ⟨inOrder_insertions id exercise, rfl, ?_, fun kind code => ?_, ?_, ?_, ?_⟩
  · obtain ⟨gained, hgained, hsent⟩ := hends.sends
    obtain ⟨-, hdriver⟩ := run_create pool reading ctx id exercise cutoff world
    exact ⟨gained, hdriver.trans hgained, hsent⟩
  · rw [herror]
    simp only [blame_eq_unknownCode_iff]
    constructor
    · rintro ⟨e, hbatch, index, part, rfl, hpart, hkind, hcode⟩
      obtain ⟨start, time, answers, hsome, hanswered, hfirst, hrollback⟩ :=
        (hends.fails index _).1 hbatch
      exact ⟨start, time, answers, index, part, hsome, hanswered, hfirst, hpart, hkind, hcode,
        hrollback⟩
    · rintro ⟨start, time, answers, index, part, hsome, hanswered, hfirst, hpart, hkind, hcode,
        hrollback⟩
      exact ⟨_, (hends.fails index _).2 ⟨start, time, answers, hsome, hanswered, hfirst, hrollback⟩,
        index, part, rfl, hpart, hkind, hcode⟩
  · intro start time answers index source result hsome hanswered hfirst hresult
    exact create_firstFailure pool reading ctx id exercise cutoff world hsome hanswered hfirst
      hresult
  · intro e
    simp only [herror, ne_eq]
    constructor
    · rintro ⟨_, hbatch, hblame⟩
      obtain ⟨rfl, hnone⟩ := blame_eq_execution_iff.1 hblame
      refine ⟨hbatch, fun kind code => ?_⟩
      rintro ⟨e', hbatch', hblame'⟩
      cases hbatch.symm.trans hbatch'
      exact hnone kind code hblame'
    · rintro ⟨hbatch, hnone⟩
      exact ⟨e, hbatch, blame_eq_execution_iff.2
        ⟨rfl, fun kind code h => hnone kind code ⟨e, hbatch, h⟩⟩⟩
  · intro missing hmissing
    obtain ⟨e, -, hblame⟩ := (herror _).1 hmissing
    exact blame_ne_notFound missing hblame

end Creations
end Catalog
end QueryBatch
