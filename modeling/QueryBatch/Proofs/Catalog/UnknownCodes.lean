import QueryBatch.Proofs.Catalog.Creation
import QueryBatch.Proofs.Postgres.Bodies

/-!
# Unknown codes

When a creation reports an unknown code, the server has accepted all its statements already, so what
becomes of their effects is up to the transaction. A transaction of its own is rolled back, and then
everything is as if the statements had never been run. A transaction of the context stays under way
with them: what its owner makes of the report decides whether they are undone or committed. If the
owner fails in ending the block, then they are committed with all of it or not at all.
-/

namespace QueryBatch
namespace Catalog

open Exercise.Query Postgres

variable {S K α β : Type} {V : K → Type} [DecidableEq K]
variable {reading : Reading Row} {id : Uuid} {exercise : NewExercise} {ctx : Context}
variable {cutoff : Option Nat} {kind : CodeKind} {code : String}

section Defs

/-- Texts are those of all statements of a creation, unless the end of its batch leaves open what
became of them. -/
def Delivered (id : Uuid) (exercise : NewExercise) (batch : Except QueryBatch.Error Unit)
    (sent : List String) : Prop :=
  (∀ e, batch = .error e → ¬ Unanswered e) → sent = texts (creationStatements id exercise)

/-- Create an exercise in a transaction, after other batches, and go on with what is reported. -/
def createWithin (reading : Reading Row) (id : Uuid) (exercise : NewExercise) (before : Body V β)
    (next : β → Except Error Exercise → Body V α) (ctx : Context) :
    Work (State Wire) (Cells V) (Except QueryBatch.Error (Except Error Exercise × α)) := do
  match ← before.work Wire.network.driver ctx [] with
  | .error e => return .error e
  | .ok (b, _) =>
      let reported ← create Wire.network.driver reading ctx id exercise
      match ← (next b reported).work Wire.network.driver ctx [] with
      | .error e => return .error e
      | .ok (a, _) => return .ok (reported, a)

/-- An owner returned without an error although a creation had reported an unknown code. Its commit
was accepted with all statements of the creation in the block, so they are committed with the
others, unless the server refused one of the block. -/
def CommittedWith (statements : List Statement) (wire left : Wire) : Prop :=
  ∃ connection start block, (wire.line connection).Grows [] start ∧ start.Quiet ∧
    start.Ended (texts statements) block "COMMIT" (left.line connection) ∧
    (left.line connection).session.committed
      = start.session.committed ++ if block.all Ran.accepted then effects block else []

end Defs

theorem Delivered.of_unknownCode
    {batch : Except QueryBatch.Error Unit}
    {sent : List String}
    (hsent : Delivered id exercise batch sent)
    (hreported : Reported (insertions id exercise) batch (.error (.unknownCode kind code))) :
    sent = texts (creationStatements id exercise) := by
  cases batch with
  | ok _ => exact absurd rfl (hreported kind code)
  | error e =>
      obtain ⟨index, rfl⟩ := eq_of_blame (Except.error.inj hreported).symm
      exact hsent fun e he => Except.error.inj he ▸ nofun

section Sending

variable {opening : Opening} {kept : List String} {others : List Stake}

/-- The batch of a creation is posted in the block of its transaction. If its answers came, all its
statements were accepted, whatever the answers are. -/
theorem ends_creationBatch
    {world : World (State Wire) (Option Exercise)}
    {queue : Queueing (State Wire) Row (Option Exercise) Unit}
    {next : Except QueryBatch.Error (Batch Row (Option Exercise)) →
      Work (State Wire) (Option Exercise) (Except QueryBatch.Error Unit)}
    (hqueue : queue = creationQueue reading id exercise)
    (herror : ∀ e, next (.error e) = pure (.error e))
    (hok : ∀ batch, next (.ok batch)
      = Driver.sendBatch ctx batch (Wire.network.driver.sendThrough opening.tx))
    (hunder : Underway opening kept others world) :
    Ends (fun batch left => ∃ sent, Delivered id exercise batch sent ∧
        Underway opening (kept ++ sent) others left)
      (fun _ => True) ((queue.fill >>= next).run cutoff world) := by
  subst hqueue
  have hfill : (creationQueue reading id exercise).fill.run cutoff world
      = (.done (.ok (creationBatch reading id exercise)),
          { world with notes := filledNotes (creationQueue reading id exercise) world }) := by
    rw [fill_creation, Work.run_step]
  refine (ends_filled ctx hfill rfl rfl herror hok hunder).imp ?_ (fun _ _ => trivial)
  rintro batch left ⟨hleft, hall, -⟩
  by_cases hanswered : ∀ e, batch = .error e → ¬ Unanswered e
  · exact ⟨_, fun _ => congrArg texts statements_creationBatch, hall hanswered _ rfl⟩
  · exact ⟨[], fun h => absurd h hanswered, by rwa [List.append_nil]⟩

/-- A creation in a transaction that is under way leaves it so. -/
theorem ends_create_underway
    {world : World (State Wire) S}
    (hctx : ctx.tx = some opening.tx)
    (hunder : Underway opening kept others world) :
    Ends (fun result left => ∃ batch sent, Delivered id exercise batch sent ∧
        Reported (insertions id exercise) batch result ∧
        Underway opening (kept ++ sent) others left)
      (fun _ => True) ((create Wire.network.driver reading ctx id exercise).run cutoff world) := by
  have hnested : ∀ body : Context → Nat →
      Work (State Wire) (Option Exercise) (Except QueryBatch.Error Unit),
      Wire.network.driver.transact ctx body = body ctx opening.tx := by
    intro body
    unfold Driver.transact
    rw [hctx]
  have hends : ∀ entered : World (State Wire) (Option Exercise),
      entered.driver = world.driver → entered.openTx = world.openTx →
        Ends (fun batch left => ∃ sent, Delivered id exercise batch sent ∧
            ∀ later : World (State Wire) S, later.driver = left.driver →
              later.openTx = left.openTx → Underway opening (kept ++ sent) others later)
          (fun _ => True)
          ((Wire.network.driver.runBatchInTransaction ctx fun _ =>
            creationQueue reading id exercise).run cutoff entered) := by
    intro entered hdriver hopen
    unfold Driver.runBatchInTransaction
    apply ends_inSpan
    rw [hnested]
    refine Ends.imp (ends_creationBatch rfl (fun _ => rfl) (fun _ => rfl)
      (hunder.of_driver hdriver hopen)) ?_ (fun _ _ => trivial)
    rintro batch left ⟨sent, hsent, hleft⟩
    exact ⟨sent, hsent, fun later hlater hopen => hleft.of_driver hlater hopen⟩
  refine (ends_create (fun batch driver openTx => ∃ sent, Delivered id exercise batch sent ∧
    ∀ later : World (State Wire) S, later.driver = driver → later.openTx = openTx →
      Underway opening (kept ++ sent) others later) hends).imp ?_ (fun _ _ => trivial)
  rintro result left ⟨batch, ⟨sent, hsent, hleft⟩, hreported⟩
  exact ⟨batch, sent, hsent, hreported, hleft left rfl rfl⟩

end Sending

section Outcomes

variable {world left : World (State Wire) S}

/-- A creation in a transaction of its own that reports an unknown code, on a pool in any state that
it can come to, is undone. -/
theorem unknownCode_of_owner
    (hreached : Reached world.driver)
    (hctx : ctx.tx = none)
    (hrun : (create Wire.network.driver reading ctx id exercise).run cutoff world
      = (.done (.error (.unknownCode kind code)), left)) :
    ∃ connection start, BlockUndone (texts (creationStatements id exercise)) connection start
      world.driver.network left.driver.network := by
  obtain ⟨stakes, hsound⟩ := hreached.sound
  have hends : ∀ entered : World (State Wire) (Option Exercise),
      entered.driver = world.driver → entered.openTx = world.openTx →
        Ends (fun batch final => ∀ index, batch = .error (.statement index (.rowsAffected 0)) →
            ∃ connection start,
              BlockUndone (texts (creationStatements id exercise)) connection start
              world.driver.network final.driver.network)
          (fun _ => True)
          ((Wire.network.driver.runBatchInTransaction ctx fun _ =>
            creationQueue reading id exercise).run cutoff entered) := by
    intro entered hdriver _
    -- under a name of its own the queue is not run when two calls are compared
    generalize hqueue : (fun _ : Context => creationQueue reading id exercise) = queue
    unfold Driver.runBatchInTransaction
    apply ends_inSpan
    have hentered : Sound entered.driver stakes := hdriver ▸ hsound
    refine Ends.imp (ends_transact _ hctx hentered fun opening _ hunder =>
      ends_creationBatch (congrFun hqueue _).symm (fun _ => rfl) (fun _ => rfl) hunder) ?_
        (fun _ _ => trivial)
    rintro batch final htransacted index rfl
    cases htransacted with
    | undone hlines hkept hconcluded =>
        obtain rfl := hkept fun e he => Except.error.inj he ▸ nofun
        rw [hdriver] at hlines
        exact ⟨_, _, hconcluded.undone hlines⟩
    | failed howner =>
        -- a failure of the owner puts no statement to blame
        cases howner <;> contradiction
  obtain ⟨batch, hknown, hreported⟩ := (ends_create (fun batch driver _ => ∀ index,
    batch = .error (.statement index (.rowsAffected 0)) → ∃ connection start,
      BlockUndone (texts (creationStatements id exercise)) connection start world.driver.network
        driver.network) hends).of_done hrun
  cases batch with
  | ok _ => exact absurd rfl (hreported kind code)
  | error e =>
      obtain ⟨index, rfl⟩ := eq_of_blame (Except.error.inj hreported).symm
      exact hknown index rfl

/-- The transaction that an exercise is created in stays under way, and if an unknown code was
reported then all statements of the creation were accepted in it. -/
theorem ends_createWithin
    {opening : Opening}
    {others : List Stake}
    {world : World (State Wire) (Cells V)}
    (before : Body V β)
    (next : β → Except Error Exercise → Body V α)
    (hctx : ctx.tx = some opening.tx)
    (hunder : Underway opening [] others world) :
    Ends (fun result left => ∃ kept,
        (∀ kind code a, result = .ok (.error (.unknownCode kind code), a) →
          (texts (creationStatements id exercise)).Sublist kept) ∧
        Underway opening kept others left)
      (fun _ => True) ((createWithin reading id exercise before next ctx).run cutoff world) := by
  unfold createWithin
  apply ends_bind
  refine (before.ends_work_after [] hctx hunder).imp ?_ (fun _ _ => trivial)
  rintro (e | ⟨b, _⟩) begun ⟨first, -, hbegun⟩
  · exact ⟨_, nofun, hbegun⟩
  · apply ends_bind
    refine (ends_create_underway hctx hbegun).imp ?_ (fun _ _ => trivial)
    rintro reported created ⟨batch, sent, hsent, hreported, hcreated⟩
    apply ends_bind
    rw [← List.append_nil (_ ++ sent)] at hcreated
    refine ((next b reported).ends_work_after _ hctx hcreated).imp ?_ (fun _ _ => trivial)
    rintro (e | ⟨a, _⟩) left ⟨last, -, hleft⟩
    · exact ⟨_, nofun, hleft⟩
    · refine ⟨_, fun kind code a' hresult => ?_, hleft⟩
      obtain ⟨rfl, -⟩ := Prod.mk.inj (Except.ok.inj hresult)
      rw [← hsent.of_unknownCode hreported]
      exact (List.sublist_append_right _ sent).trans (List.sublist_append_left _ _)

/-- What becomes of a creation that reports an unknown code, on a pool in any state that it can come
to and whatever the server does. In a transaction of its own it is undone. In a transaction of its
context that is undone too if the owner fails in its body and rolls back; if the owner goes on and
returns without an error, then it is committed with the rest of the block. If the owner fails
itself, its block was not begun, or it is committed as a whole or not at all. -/
theorem unknown_code_is_undone_unless_owner_commits
    {world : World (State Wire) (Cells V)}
    (hreached : Reached world.driver)
    (hctx : ctx.tx = none)
    (reading : Reading Row)
    (id : Uuid)
    (exercise : NewExercise)
    (before : Body V β)
    (next : β → Except Error Exercise → Body V α)
    (cutoff : Option Nat) :
    (∀ kind code left,
      (create Wire.network.driver reading ctx id exercise).run cutoff world
          = (.done (.error (.unknownCode kind code)), left) →
        ∃ connection start, BlockUndone (texts (creationStatements id exercise)) connection start
          world.driver.network left.driver.network) ∧
      (∀ e left,
        (Wire.network.driver.inTransaction ctx
            (createWithin reading id exercise before next)).run cutoff world
          = (.done (.error e), left) →
        OwnerFailed world.driver.network left.driver.network e ∨
          ∃ connection start kept, BlockUndone kept connection start world.driver.network
            left.driver.network) ∧
      ∀ kind code a left,
        (Wire.network.driver.inTransaction ctx
            (createWithin reading id exercise before next)).run cutoff world
          = (.done (.ok (.error (.unknownCode kind code), a)), left) →
        CommittedWith (creationStatements id exercise) world.driver.network
          left.driver.network := by
  obtain ⟨stakes, hsound⟩ := hreached.sound
  have hbody : ∀ opening (begun : World (State Wire) (Cells V)), Underway opening [] stakes begun →
      Ends _ _ ((createWithin reading id exercise before next (ctx.derive opening.tx)).run cutoff
        begun) :=
    fun opening _ hunder => ends_createWithin before next (Context.tx_derive ctx opening.tx) hunder
  have hends := ends_transact (fun ctx _ => createWithin reading id exercise before next ctx) hctx
    hsound hbody
  refine ⟨fun _ _ _ hrun => unknownCode_of_owner hreached hctx hrun, fun e left hrun => ?_,
    fun kind code a left hrun => ?_⟩
  · cases hends.of_done hrun with
    | undone hlines _ hconcluded => exact .inr ⟨_, _, _, hconcluded.undone hlines⟩
    | failed howner => exact .inl howner
  · cases hends.of_done hrun with
    | @committed _ opening kept hlines hkept hconcluded =>
        obtain ⟨block, hended⟩ := hconcluded.block
        have hcreated := hended.forget (hkept kind code a rfl)
        exact ⟨_, _, block, hlines ▸ opening.before, opening.quiet, hcreated, hcreated.committed⟩

end Outcomes

section Runs

variable {statements : List Statement}

/-- Post statements that can be written, without a look at their texts. -/
def postWritten (live : Live) : List Statement → Task Wire S (List (StatementKind × Posted))
  | [] => return []
  | statement :: rest => do
      let posted ← Task.step fun world =>
        if Wire.network.isOpen world.driver.network live.connection then
          let (ticket, wire) := Wire.network.post live.connection world.now
            (.statement statement.sql) world.driver.network
          (.ok ticket, changeNetwork (fun _ => wire) world)
        else (.error .closed, world)
      return (statement.kind, posted) :: (← postWritten live rest)

/-- Send statements that can be written through a handle, without a look at their texts. -/
def sendWritten (tx : Nat) (statements : List Statement) :
    Work (State Wire) S (Answers Row) := do
  if ← Driver.isClosed tx then return .error .txClosed
  Task.work Wire.network do
    match ← Network.heldBy tx with
    | none => return .error .txClosed
    | some live => do
        let posted ← postWritten live statements
        let results ← Network.outcomes live posted
        return gather none results none

theorem postAll_eq_postWritten
    (live : Live)
    (hall : ∀ s ∈ statements, unwritable? (.statement s.sql) = none) :
    (Network.postAll Wire.network live statements : Task Wire S _)
      = postWritten live statements := by
  induction statements with
  | nil => rfl
  | cons statement rest ih =>
      have hfirst := hall statement List.mem_cons_self
      rw [Network.postAll, postWritten, ih fun s hs => hall s (List.mem_cons_of_mem _ hs)]
      simp only [Network.request, hfirst]

theorem sendThrough_eq_sendWritten
    (tx : Nat)
    (hall : ∀ s ∈ statements, unwritable? (.statement s.sql) = none) :
    (Wire.network.driver.sendThrough tx statements : Work (State Wire) S _)
      = sendWritten tx statements := by
  have hsend : (Wire.network.driver.sendIn tx statements : Work (State Wire) S _)
      = (Network.sendIn Wire.network tx statements).work Wire.network := rfl
  unfold Driver.sendThrough sendWritten
  rw [hsend]
  simp only [Network.sendIn, Network.pipeline, Network.postFrame, Network.frameOutcome,
    postAll_eq_postWritten _ hall]
  rfl

theorem sendBatch_congr
    {σ ρ : Type}
    {batch : Batch ρ S}
    {send send' : List Statement → Work σ S (Answers ρ)}
    (hsend : send batch.statements = send' batch.statements) :
    Driver.sendBatch ctx batch send = Driver.sendBatch ctx batch send' := by
  unfold Driver.sendBatch
  rw [hsend]

/-- A creation, with its batch filled already and its texts not looked at. -/
theorem create_eq :
    (create Wire.network.driver reading ctx id exercise : Work (State Wire) S _)
      = Work.inSpan "create_exercise" do
          match ← collected <| Work.inSpan "run_batch_in_transaction" <|
            Wire.network.driver.transact ctx fun ctx tx => do
              Work.change fun world =>
                { world with notes := filledNotes (creationQueue reading id exercise) world }
              Driver.sendBatch ctx (creationBatch reading id exercise) (sendWritten tx)
          with
          | .error e => return .error (blame (insertions id exercise) e)
          | .ok none => return .error (.notFound id)
          | .ok (some created) => return .ok created := by
  have hsend : ∀ ctx tx, Driver.sendBatch ctx (creationBatch reading id exercise)
        (Wire.network.driver.sendThrough tx)
      = Driver.sendBatch ctx (creationBatch reading id exercise) (sendWritten tx) := by
    intro ctx tx
    apply sendBatch_congr
    rw [statements_creationBatch]
    exact sendThrough_eq_sendWritten tx unwritable?_creationStatements
  have hbatch : (Wire.network.driver.runBatchInTransaction ctx fun _ =>
        creationQueue reading id exercise)
      = Work.inSpan "run_batch_in_transaction" (Wire.network.driver.transact ctx fun ctx tx => do
          Work.change fun world =>
            { world with notes := filledNotes (creationQueue reading id exercise) world }
          Driver.sendBatch ctx (creationBatch reading id exercise)
            (sendWritten tx)) := by
    unfold Driver.runBatchInTransaction
    simp only [fill_creation, ← hsend]
    rfl
  unfold create
  dsimp only
  rewrite [← creationQueue, hbatch]
  rfl

/-- An exercise that needs a sled. -/
def sledPush : NewExercise where
  name := "Sled Push"
  category := "strength"
  description := none
  instructions := []
  equipmentTypes := ["sled"]
  primaryMuscles := []
  tags := []

/-- A server that knows the category of an exercise but not what equipment it needs. -/
def withoutSleds : World (State Wire) (Cells NoCells) :=
  fresh nofun [none, none, some (.accepted {}), some (.accepted { affected := some 1 }),
    some (.accepted { affected := some 0 }), some (.accepted {}), some (.accepted {})]

/-- Create an exercise in a transaction, and succeed whatever is reported. -/
def createHeedlessly (id : Uuid) (exercise : NewExercise) :
    Context → Work (State Wire) (Cells NoCells)
      (Except QueryBatch.Error (Except Error Exercise × Unit)) :=
  createWithin .rows id exercise (.ret (.ok ())) fun _ _ => .ret (.ok ())

theorem create_without_sleds :
    ((create Wire.network.driver .rows .empty ⟨7⟩ sledPush).run none withoutSleds).1
      = .done (.error (.unknownCode .equipmentType "sled")) := by
  rw [create_eq]
  exact done_of_error? (by decide +kernel)

/-- How a run ended, the number of connections that were opened, and how much is committed on the
first one. -/
def outline {α : Type} (out : Ending α × World (State Wire) S) : Ending α × Nat × Nat :=
  (out.1, out.2.driver.network.opened, (out.2.driver.network.line 0).session.committed.length)

theorem outline_eq
    {α : Type}
    {out : Ending α × World (State Wire) S}
    {ending : Ending α}
    {opened committed : Nat}
    (houtline : outline out = (ending, opened, committed)) :
    out.1 = ending ∧ out.2.driver.network.opened = opened ∧
      (out.2.driver.network.line 0).session.committed.length = committed := by
  simpa [outline] using houtline

theorem createHeedlessly_without_sleds :
    outline ((Wire.network.driver.inTransaction .empty (createHeedlessly ⟨7⟩ sledPush)).run none
      withoutSleds) = (.done (.ok (.error (.unknownCode .equipmentType "sled"), ())), 1, 3) := by
  unfold createHeedlessly createWithin
  simp only [create_eq]
  decide +kernel

/-- An equipment code is unknown: the creation by itself is undone, and the one whose owner goes on
is committed. -/
theorem unknown_code_is_undone_or_committed_without_sleds :
    Reached withoutSleds.driver ∧ Context.empty.tx = none ∧
      (∃ left, (create Wire.network.driver .rows .empty ⟨7⟩ sledPush).run none withoutSleds
          = (.done (.error (.unknownCode .equipmentType "sled")), left) ∧
        ∃ connection start, BlockUndone (texts (creationStatements ⟨7⟩ sledPush)) connection start
          withoutSleds.driver.network left.driver.network) ∧
      ∃ left, (Wire.network.driver.inTransaction .empty (createHeedlessly ⟨7⟩ sledPush)).run none
          withoutSleds = (.done (.ok (.error (.unknownCode .equipmentType "sled"), ())), left) ∧
        CommittedWith (creationStatements ⟨7⟩ sledPush) withoutSleds.driver.network
          left.driver.network := by
  have hreached : Reached withoutSleds.driver := reached_fresh _ _
  have hctx : Context.empty.tx = none := rfl
  obtain ⟨halone, -, hcaught⟩ := unknown_code_is_undone_unless_owner_commits hreached hctx .rows ⟨7⟩
    sledPush (.ret (.ok ())) (fun _ _ => .ret (.ok ())) none
  have hcreated := run_eq_of_done create_without_sleds
  have hheedless := run_eq_of_done (outline_eq createHeedlessly_without_sleds).1
  exact ⟨hreached, hctx, ⟨_, hcreated, halone _ _ _ hcreated⟩, _, hheedless,
    hcaught _ _ _ _ hheedless⟩

/-- The owner of a transaction goes on after an unknown code and succeeds. The effects of all
statements of the creation are committed then, that of its accepted insertion among them. -/
theorem caught_unknown_code_is_committed :
    Reached withoutSleds.driver ∧
      (withoutSleds.driver.network.line 0).session.committed = [] ∧
      (creationStatements ⟨7⟩ sledPush).length = 3 ∧
      ∃ left, (Wire.network.driver.inTransaction .empty (createHeedlessly ⟨7⟩ sledPush)).run none
          withoutSleds = (.done (.ok (.error (.unknownCode .equipmentType "sled"), ())), left) ∧
        left.driver.network.opened = 1 ∧
        (left.driver.network.line 0).session.committed.length = 3 := by
  obtain ⟨hdone, hopened, hcommitted⟩ := outline_eq createHeedlessly_without_sleds
  exact ⟨reached_fresh _ _, rfl, rfl, _, run_eq_of_done hdone, hopened, hcommitted⟩

end Runs
end Catalog
end QueryBatch
