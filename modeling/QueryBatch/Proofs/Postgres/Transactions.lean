import QueryBatch.Batch.Run
import QueryBatch.Proofs.Postgres.Alone
import QueryBatch.Proofs.Postgres.Blocks

/-!
# Transactions and their blocks

An owner's transaction is a block on one connection: it is opened by `BEGIN`, everything that is
sent in the transaction is posted in it, and it is ended by the owner's `COMMIT` or `ROLLBACK`.
`Underway` holds from the one to the other, `Concluded` afterwards, and `ends_transact` ties them
together for any body of which the first is kept.

An owner may fail in what it does itself. Then its block was not begun, or the client does not know
what became of its end (`InDoubt`): it is committed as a whole or not at all, and not at all if it
was to be rolled back.
-/

namespace QueryBatch
namespace Postgres

variable {S α : Type}

/-- A transaction when it was begun: its connection and the line there, which was quiet, and all
lines a little earlier. -/
structure Opening where
  tx : Nat
  live : Live
  start : Line
  lines : Nat → Line
  quiet : start.Quiet
  before : (lines live.connection).Grows [] start

section Defs

/-- A transaction is under way in its block, with statements that are known to be accepted. -/
structure Underway (opening : Opening) (kept : List String) (others : List Stake)
    (world : World (State Wire) S) : Prop where
  line : ∃ line, Holding (some opening.tx) opening.live line world others ∧
    opening.start.InBlock kept line
  handle : opening.tx ∈ world.openTx
  elsewhere : ∀ other, other ≠ opening.live.connection →
    (opening.lines other).Grows [] (world.driver.network.line other)

/-- A transaction is over, and the last request of its block was accepted. -/
structure Concluded (opening : Opening) (kept : List String) (command : String)
    (world : World (State Wire) S) : Prop where
  block : ∃ block, opening.start.Ended kept block command
    (world.driver.network.line opening.live.connection)
  handle : opening.tx ∉ world.openTx
  elsewhere : ∀ other, other ≠ opening.live.connection →
    (opening.lines other).Grows [] (world.driver.network.line other)

/-- A transaction is over, and the last request of its block was posted at most. -/
structure InDoubt (opening : Opening) (kept : List String) (command : String)
    (world : World (State Wire) S) : Prop where
  block : opening.start.Unconfirmed kept command
    (world.driver.network.line opening.live.connection)
  handle : opening.tx ∉ world.openTx
  elsewhere : ∀ other, other ≠ opening.live.connection →
    (opening.lines other).Grows [] (world.driver.network.line other)

/-- What is left of a block that was undone: it was run on one connection, with statements that are
known to be accepted, and rolled back, and nothing was posted elsewhere. Whatever is posted there
later, what is committed is what would be if the block had never been run. -/
structure BlockUndone (kept : List String) (connection : Nat) (start : Line) (wire left : Wire) :
    Prop where
  before : (wire.line connection).Grows [] start
  quiet : start.Quiet
  elsewhere : ∀ other, other ≠ connection → (wire.line other).Grows [] (left.line other)
  ended : ∃ block, start.Ended kept block "ROLLBACK" (left.line connection)
  undone : ∀ requests later, (left.line connection).Grows requests later →
    ∃ after, after.map Ran.request <+: requests ∧ later.ran = (left.line connection).ran ++ after ∧
      later.session.committed = (replay (start.ran ++ after)).committed

/-- What is left of a block whose end was not confirmed, with statements that are known to be
accepted: nothing was posted elsewhere, and whatever happens on its line later, nothing of it is
committed, or all of it is. The latter is only if it was to be committed and the server accepted
all its statements and the commit. -/
structure BlockInDoubt (kept : List String) (command : String) (connection : Nat) (start : Line)
    (wire left : Wire) : Prop where
  before : (wire.line connection).Grows [] start
  quiet : start.Quiet
  elsewhere : ∀ other, other ≠ connection → (wire.line other).Grows [] (left.line other)
  outcome : ∀ later, (left.line connection).Grows [] later →
    later.session.committed = start.session.committed ∨
      command = "COMMIT" ∧ ∃ block, start.Ended kept block "COMMIT" later ∧
        block.all Ran.accepted = true ∧
        later.session.committed = start.session.committed ++ effects block

end Defs

/-- An error of sending that leaves open what became of the statements. -/
def Unanswered : Error → Prop
  | .send _ | .deadlineExceeded _ => True
  | _ => False

/-- An error of what an owner does itself in a phase. -/
def OfOwner : Phase → Error → Prop
  | .begin, .begin _ | .begin, .deadlineExceeded .begin => True
  | .commit, .commit _ | .commit, .deadlineExceeded .commit => True
  | .rollback, .rollback _ _ => True
  | _, _ => False

/-- What an owner leaves that fails in what it does itself, by the error that it returns. -/
inductive OwnerFailed (wire left : Wire) (e : Error) : Prop
  | begin
      (herror : OfOwner .begin e)
      (hleft : NotBegun wire left)
  | commit
      {connection : Nat}
      {start : Line}
      {kept : List String}
      (herror : OfOwner .commit e)
      (hleft : BlockInDoubt kept "COMMIT" connection start wire left)
  | rollback
      {connection : Nat}
      {start : Line}
      {kept : List String}
      (herror : OfOwner .rollback e)
      (hleft : BlockInDoubt kept "ROLLBACK" connection start wire left)

/-- What an owner leaves, by its result, if `known` holds of the result of its body and of statements
that are known to be accepted. -/
inductive Transacted (known : Except Error α → List String → Prop) (wire : Wire)
    (left : World (State Wire) S) : Except Error α → Prop
  | committed
      {a : α}
      {opening : Opening}
      {kept : List String}
      (hlines : opening.lines = wire.line)
      (hknown : known (.ok a) kept)
      (hconcluded : Concluded opening kept "COMMIT" left) :
      Transacted known wire left (.ok a)
  | undone
      {e : Error}
      {opening : Opening}
      {kept : List String}
      (hlines : opening.lines = wire.line)
      (hknown : known (.error e) kept)
      (hconcluded : Concluded opening kept "ROLLBACK" left) :
      Transacted known wire left (.error e)
  | failed
      {e : Error}
      (howner : OwnerFailed wire left.driver.network e) :
      Transacted known wire left (.error e)

section Sending

variable {opening : Opening} {kept : List String} {others : List Stake}
variable {world left : World (State Wire) S} {cutoff : Option Nat}

namespace Underway

/-- Neither the time nor the log nor the caller's store matters. -/
theorem of_driver
    {T : Type}
    {left : World (State Wire) T}
    (hunder : Underway opening kept others world)
    (hdriver : left.driver = world.driver)
    (hopen : left.openTx = world.openTx) :
    Underway opening kept others left := by
  obtain ⟨⟨line, ⟨hsound, hnow⟩, hblock⟩, hhandle, helsewhere⟩ := hunder
  exact ⟨⟨line, ⟨hdriver ▸ hsound, hdriver ▸ hnow⟩, hblock⟩, hopen ▸ hhandle, hdriver ▸ helsewhere⟩

end Underway

/-- Statements that are sent through the handle are posted in the block. -/
theorem ends_sendThrough
    (statements : List Statement)
    (hunder : Underway opening kept others world) :
    Ends (fun answers left => Underway opening kept others left ∧
        ∀ list, answers = .ok list → Underway opening (kept ++ texts statements) others left)
      (Underway opening kept others)
      ((Wire.network.driver.sendThrough opening.tx statements).run cutoff world) := by
  obtain ⟨⟨line, hholding, hblock⟩, hhandle, helsewhere⟩ := hunder
  have hopen : (!world.openTx.contains opening.tx) = false := by simpa using hhandle
  have hlater : ∀ {kept : List String} {left : World (State Wire) S} {later : Line},
      Holding (some opening.tx) opening.live later left others → opening.start.InBlock kept later →
        Posts (· = opening.live.connection) world left → Underway opening kept others left := by
    intro kept left later hlater hinside hposts
    refine ⟨⟨later, hlater, hinside⟩, hposts.openTx ▸ hhandle, fun other hother => ?_⟩
    exact (helsewhere other hother).trans_still (hposts.still other hother)
  unfold Driver.sendThrough Driver.isClosed
  apply ends_bind
  rw [Work.run_look, ends_done, hopen]
  refine (ends_sendIn statements hholding cutoff).imp ?_ ?_
  · rintro answers left ⟨later, hleft, hpiped, hposts⟩
    refine ⟨hlater hleft (hblock.given_up hpiped.1) hposts, ?_⟩
    rintro list rfl
    exact hlater hleft (hblock.answered hpiped) hposts
  · rintro left ⟨later, hleft, hgrows, hposts⟩
    exact hlater hleft (hblock.given_up hgrows) hposts

/-- A batch that is sent in a transaction is posted in its block. If its answers came, all its
statements were accepted, whatever the answers are. -/
theorem ends_sendBatch
    (ctx : Context)
    (batch : Batch Row S)
    (hunder : Underway opening kept others world) :
    Ends (fun result left => Underway opening kept others left ∧
        ((∀ e, result = .error e → ¬ Unanswered e) →
          Underway opening (kept ++ texts batch.statements) others left))
      (Underway opening kept others)
      ((Driver.sendBatch ctx batch (Wire.network.driver.sendThrough opening.tx)).run cutoff world)
        := by
  unfold Driver.sendBatch
  cases hempty : batch.isEmpty with
  | true =>
      have hnothing : texts batch.statements = [] := by
        simp only [Batch.isEmpty, List.isEmpty_iff] at hempty
        simp [Batch.statements, hempty, texts]
      rw [hnothing, List.append_nil]
      exact ⟨hunder, fun _ => hunder⟩
  | false =>
      obtain ⟨notes, hrecord⟩ := world.record_eq [("statements", toString batch.size)]
      have hrecorded : Underway opening kept others { world with notes := notes } :=
        hunder.of_driver rfl rfl
      apply ends_bind
      rw [Work.run_change, ends_done, hrecord]
      apply ends_bind
      apply ends_until?
      refine (ends_sendThrough batch.statements hrecorded).imp ?_ ?_
      · rintro (e | answers) left ⟨hleft, hanswered⟩
        · exact ⟨hleft, fun hnone => (hnone _ rfl trivial).elim⟩
        · have hall := hanswered answers rfl
          dsimp only
          cases hresolve : batch.resolve answers with
          | error e => exact ⟨hleft, fun _ => hall⟩
          | ok change => exact ⟨hleft.of_driver rfl rfl, fun _ => hall.of_driver rfl rfl⟩
      · intro left hleft
        exact ⟨⟨hleft, fun hnone => (hnone _ rfl trivial).elim⟩, hleft⟩

/-- Filling a batch that only touches the caller's side, and sending it in a transaction. -/
theorem ends_filled
    (ctx : Context)
    {queue : Queueing (State Wire) Row S Unit}
    {filled : Except Error (Batch Row S)}
    {next : Except Error (Batch Row S) → Work (State Wire) S (Except Error Unit)}
    (hfill : queue.fill.run cutoff world = (.done filled, left))
    (hdriver : left.driver = world.driver)
    (hopen : left.openTx = world.openTx)
    (herror : ∀ e, next (.error e) = pure (.error e))
    (hok : ∀ batch, next (.ok batch)
      = Driver.sendBatch ctx batch (Wire.network.driver.sendThrough opening.tx))
    (hunder : Underway opening kept others world) :
    Ends (fun result later => Underway opening kept others later ∧
        ((∀ e, result = .error e → ¬ Unanswered e) → ∀ batch, filled = .ok batch →
          Underway opening (kept ++ texts batch.statements) others later) ∧
        (filled.isOk = false → ∃ e, filled = .error e ∧ result = .error e))
      (Underway opening kept others) ((queue.fill >>= next).run cutoff world) := by
  have hleft : Underway opening kept others left := hunder.of_driver hdriver hopen
  apply ends_bind
  rw [hfill, ends_done]
  cases filled with
  | error e =>
      rw [herror]
      exact ⟨hleft, fun _ _ h => (nomatch h), fun _ => ⟨e, rfl, rfl⟩⟩
  | ok batch =>
      rw [hok]
      refine (ends_sendBatch ctx batch hleft).imp ?_ (fun _ h => h)
      rintro result later ⟨hlater, hall⟩
      exact ⟨hlater, fun hnone _ h => Except.ok.inj h ▸ hall hnone, fun h => (nomatch h)⟩

end Sending

section Owning

variable {opening : Opening} {kept : List String} {others : List Stake}
variable {world : World (State Wire) S} {cutoff : Option Nat} {ctx : Context}

/-- The end of a block through an open handle, which closes it. -/
theorem ends_closing
    {command : String}
    {through : Work (State Wire) S (Except DriverError Unit)}
    (hends : (Request.script command).endsBlock = true)
    (hthrough : through = do
      if ← Driver.closeHandle opening.tx then
        (Network.finish Wire.network command opening.tx).work Wire.network
      else return .error .txClosed)
    (hunder : Underway opening kept others world) :
    Ends (fun answer left =>
        (∀ e, answer = .error e → OfConnection e ∧ InDoubt opening kept command left) ∧
        (answer = .ok () → Concluded opening kept command left))
      (InDoubt opening kept command) (through.run cutoff world) := by
  obtain ⟨⟨line, hholding, hblock⟩, hhandle, helsewhere⟩ := hunder
  have hopen : world.openTx.contains opening.tx = true := by simpa using hhandle
  let closed : World (State Wire) S :=
    { world with openTx := world.openTx.filter (· ≠ opening.tx) }
  have hclosed : Holding (some opening.tx) opening.live line closed others :=
    ⟨hholding.sound, hholding.now⟩
  rw [hthrough]
  unfold Driver.closeHandle
  apply ends_bind
  rw [Work.run_step, ends_done, hopen]
  have hover : ∀ {left : World (State Wire) S}, Posts (· = opening.live.connection) closed left →
      opening.tx ∉ left.openTx ∧ ∀ other, other ≠ opening.live.connection →
        (opening.lines other).Grows [] (left.driver.network.line other) := by
    intro left hposts
    refine ⟨?_, fun other hother => ?_⟩
    · rw [hposts.openTx]
      simp [closed]
    · exact (helsewhere other hother).trans_still (hposts.still other hother)
  refine (ends_finish hends hclosed cutoff).imp ?_ ?_
  · rintro answer left ⟨herror, hscripted, hposts⟩
    obtain ⟨hhandle, hstill⟩ := hover hposts
    constructor
    · intro e he
      obtain ⟨hconnection, hattempted⟩ := herror e he
      exact ⟨hconnection, ⟨line, hblock, hattempted⟩, hhandle, hstill⟩
    · exact fun hok => ⟨hblock.ended opening.quiet (hscripted hok), hhandle, hstill⟩
  · rintro left ⟨hattempted, hposts⟩
    obtain ⟨hhandle, hstill⟩ := hover hposts
    exact ⟨⟨line, hblock, hattempted⟩, hhandle, hstill⟩

theorem ends_commitOwned
    (ctx : Context)
    (hunder : Underway opening kept others world) :
    Ends (fun result left =>
        (∀ e, result = .error e → OfOwner .commit e ∧ InDoubt opening kept "COMMIT" left) ∧
          (result = .ok () → Concluded opening kept "COMMIT" left))
      (fun _ => True)
      ((Wire.network.driver.commitOwned ctx opening.tx).run cutoff world) := by
  unfold Driver.commitOwned
  apply ends_bind
  apply ends_until?
  refine (ends_closing (by decide) rfl hunder).imp ?_ ?_
  · rintro (e | _) left ⟨herror, hok⟩
    · obtain ⟨⟨source, rfl⟩, hdoubt⟩ := herror e rfl
      exact ⟨fun _ he => ⟨Except.error.inj he ▸ trivial, hdoubt⟩, fun hok => (nomatch hok)⟩
    · exact ⟨fun _ he => (nomatch he), fun _ => hok rfl⟩
  · intro left hdoubt
    refine ⟨⟨fun _ he => ?_, fun hok => (nomatch hok)⟩, trivial⟩
    exact ⟨Except.error.inj he ▸ trivial, hdoubt⟩

theorem ends_rollbackOwned
    (ctx : Context)
    (cause : Error)
    (hunder : Underway opening kept others world) :
    Ends (fun e left => (OfOwner .rollback e ∧ InDoubt opening kept "ROLLBACK" left) ∨
        (e = cause ∧ Concluded opening kept "ROLLBACK" left))
      (fun _ => True)
      ((Wire.network.driver.rollbackOwned ctx opening.tx cause).run cutoff world) := by
  unfold Driver.rollbackOwned
  apply ends_bind
  rw [Work.run_change, ends_done]
  apply ends_bind
  unfold withinGrace
  apply ends_bind
  rw [Work.run_now, ends_done]
  apply ends_until?
  have hnoted : Underway opening kept others (world.note "WARN"
      [("message", "rolling back transaction"), ("error", cause.message)]) :=
    hunder.of_driver rfl rfl
  refine (ends_closing (by decide) rfl hnoted).imp ?_ ?_
  · rintro (e | _) left ⟨herror, hok⟩
    · obtain ⟨⟨source, rfl⟩, hdoubt⟩ := herror e rfl
      exact .inl ⟨trivial, hdoubt⟩
    · exact .inr ⟨rfl, hok rfl⟩
  · intro left hdoubt
    exact ⟨.inl ⟨trivial, hdoubt⟩, trivial⟩

/-- The last handle of a transaction that is over lets nothing go. -/
theorem dropHandle_eq_self
    {tx : Nat}
    (hhandle : tx ∉ world.openTx) :
    Wire.network.driver.dropHandle tx world = world := by
  unfold Driver.dropHandle
  rw [if_neg (by simpa using hhandle)]

/-- A transaction that is over with a rollback was undone. -/
theorem Concluded.undone
    {wire : Wire}
    (hconcluded : Concluded opening kept "ROLLBACK" world)
    (hlines : opening.lines = wire.line) :
    BlockUndone kept opening.live.connection opening.start wire world.driver.network := by
  obtain ⟨block, hended⟩ := hconcluded.block
  exact ⟨hlines ▸ opening.before, opening.quiet, hlines ▸ hconcluded.elsewhere, ⟨block, hended⟩,
    fun _ _ hgrows => hended.rolled_back hgrows⟩

/-- A transaction that is over, and the client does not know how, left its block in doubt. -/
theorem InDoubt.left
    {command : String}
    {wire : Wire}
    (hdoubt : InDoubt opening kept command world)
    (hends : command = "COMMIT" ∨ command = "ROLLBACK")
    (hlines : opening.lines = wire.line) :
    BlockInDoubt kept command opening.live.connection opening.start wire world.driver.network :=
  ⟨hlines ▸ opening.before, opening.quiet, hlines ▸ hdoubt.elsewhere,
    fun _ hgrows => hdoubt.block.committed opening.quiet hends hgrows⟩

/-- An owner's transaction is under way while its body runs. If the body succeeds and the owner does
too, the commit of its block was accepted. If the body fails, so was the rollback. If the owner
fails itself, it says in what, and its block was not begun or is in doubt. -/
theorem ends_transact
    {known : Except Error α → List String → Prop}
    (body : Context → Nat → Work (State Wire) S (Except Error α))
    (hctx : ctx.tx = none)
    (hsound : Sound world.driver others)
    (hbody : ∀ opening left, Underway opening [] others left →
      Ends (fun result later => ∃ kept, known result kept ∧ Underway opening kept others later)
        (fun _ => True) ((body (ctx.derive opening.tx) opening.tx).run cutoff left)) :
    Ends (fun result left => Transacted known world.driver.network left result)
      (fun _ => True) ((Wire.network.driver.transact ctx body).run cutoff world) := by
  unfold Driver.transact Driver.withTransaction
  rw [hctx]
  apply ends_bind
  apply ends_until?
  refine (ends_begin hsound _).imp ?_ fun left hleft => ⟨.failed (.begin trivial hleft), trivial⟩
  rintro (e | tx) left ⟨hbegun, hunbegun⟩
  · exact .failed (.begin trivial (hunbegun e rfl))
  · obtain ⟨live, start, line, hquiet, hbefore, hholding, hscripted, hposts⟩ := hbegun tx rfl
    let opening : Opening := ⟨tx, live, start, world.driver.network.line, hquiet, hbefore⟩
    have hunder : Underway opening [] others { left with openTx := tx :: left.openTx } :=
      ⟨⟨line, ⟨hholding.sound, hholding.now⟩, .opened hscripted⟩, List.mem_cons_self, hposts.still⟩
    -- the handle is closed when the owner returns, so dropping it does nothing
    have hdropped : ∀ {result : Except Error α} {final : World (State Wire) S}, tx ∉ final.openTx →
        Transacted known world.driver.network final result →
          Transacted known world.driver.network (Wire.network.driver.dropHandle tx final)
            result := by
      intro result final hhandle htransacted
      rwa [dropHandle_eq_self hhandle]
    apply ends_bind
    rw [Work.run_change, ends_done]
    apply ends_leaving
    apply ends_bind
    refine (hbody opening _ hunder).imp ?_ (fun _ _ => trivial)
    rintro (cause | a) later ⟨kept, hknown, hlater⟩
    · apply ends_bind
      refine (ends_rollbackOwned _ cause hlater).imp ?_ (fun _ _ => trivial)
      rintro e final (⟨howner, hdoubt⟩ | ⟨rfl, hconcluded⟩)
      · exact hdropped hdoubt.handle (.failed (.rollback howner (hdoubt.left (.inr rfl) rfl)))
      · exact hdropped hconcluded.handle (.undone rfl hknown hconcluded)
    · apply ends_bind
      refine (ends_commitOwned _ hlater).imp ?_ (fun _ _ => trivial)
      rintro (e | _) final ⟨hfails, hok⟩
      · obtain ⟨howner, hdoubt⟩ := hfails e rfl
        exact hdropped hdoubt.handle (.failed (.commit howner (hdoubt.left (.inl rfl) rfl)))
      · exact hdropped (hok rfl).handle (.committed rfl hknown (hok rfl))

end Owning
end Postgres
end QueryBatch
