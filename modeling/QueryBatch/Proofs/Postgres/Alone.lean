import QueryBatch.Proofs.Postgres.Quiescence

/-!
# Calls that run by themselves

The promises of the driver's calls, for runs of one call after the other: from any state that a pool
in use can come to, and under any cut-off. Besides its promise, such a run keeps the handles of
transactions open that are, and posts on no line but its own (`Posts`).
-/

namespace QueryBatch
namespace Postgres

variable {S α β : Type}

section Defs

/-- Only on certain connections was anything posted, and the same handles are open. -/
structure Posts (on : Nat → Prop) (world later : World (State Wire) S) : Prop where
  openTx : later.openTx = world.openTx
  still : ∀ connection, ¬ on connection →
    (world.driver.network.line connection).Grows [] (later.driver.network.line connection)

/-- A block was begun on one connection at most, and nothing else was posted on any. -/
def NotBegun (wire left : Wire) : Prop :=
  ∃ connection, (wire.line connection).Attempted "BEGIN" (left.line connection) ∧
    ∀ other, other ≠ connection → (wire.line other).Grows [] (left.line other)

/-- Whatever a call does, it posts on certain connections only. -/
def Task.PostsOn (on : Nat → Prop) : Task Wire S α → Prop
  | .done _ => True
  | .act next change => ∀ world, Posts on world (change world) ∧ (next world).PostsOn on
  | .wait _ next dropped =>
      (∀ world, Posts on world (dropped world)) ∧ ∀ answer, (next answer).PostsOn on

end Defs

section Posting

variable {on : Nat → Prop} {world later latest : World (State Wire) S}
variable {task : Task Wire S α}

theorem Passes.posts
    (hpasses : Passes world later)
    (on : Nat → Prop) :
    Posts on world later where
  openTx := hpasses.openTx
  still connection _ := hpasses.wire.line connection

theorem frame_posts
    (on : Nat → Prop) :
    Frame (Posts (S := S) on) where
  quiet hdriver hopen := (Passes.of_driver hdriver hopen).posts on
  trans hfirst hsecond :=
    ⟨hsecond.openTx.trans hfirst.openTx, fun connection hon =>
      (hfirst.still connection hon).trans_still (hsecond.still connection hon)⟩

theorem Posts.widen
    {more : Nat → Prop}
    (hposts : Posts on world later)
    (hmore : ∀ connection, on connection → more connection) :
    Posts more world later :=
  ⟨hposts.openTx, fun connection hnot => hposts.still connection fun hon => hnot (hmore _ hon)⟩

namespace Task.PostsOn

theorem bind
    {next : α → Task Wire S β}
    (htask : task.PostsOn on)
    (hnext : ∀ a, (next a).PostsOn on) :
    (task >>= next).PostsOn on := by
  induction task with
  | done a => exact hnext a
  | act body change ih => exact fun world => ⟨(htask world).1, ih world (htask world).2⟩
  | wait w body dropped ih => exact ⟨htask.1, fun answer => ih answer (htask.2 answer)⟩

theorem onDrop
    {leave : World (State Wire) S → World (State Wire) S}
    (htask : task.PostsOn on)
    (hleave : ∀ world, Posts on world (leave world)) :
    (task.onDrop leave).PostsOn on := by
  induction task with
  | done a => trivial
  | act body change ih => exact fun world => ⟨(htask world).1, ih world (htask world).2⟩
  | wait w body dropped ih =>
      refine ⟨fun world => ?_, fun answer => ih answer (htask.2 answer)⟩
      exact (frame_posts on).trans (htask.1 world) (hleave _)

theorem step
    {f : World (State Wire) S → α × World (State Wire) S}
    (hf : ∀ world, Posts on world (f world).2) :
    (Task.step f).PostsOn on :=
  fun world => ⟨hf world, trivial⟩

theorem change
    {f : World (State Wire) S → World (State Wire) S}
    (hf : ∀ world, Posts on world (f world)) :
    (Task.change f).PostsOn on :=
  fun world => ⟨hf world, trivial⟩

theorem look
    (f : World (State Wire) S → α) :
    (Task.look f).PostsOn on :=
  fun _ => ⟨(frame_posts on).quiet rfl rfl, trivial⟩

theorem await
    (w : Wait) :
    (Task.await (S := S) w).PostsOn on :=
  ⟨fun _ => (frame_posts on).quiet rfl rfl, fun _ => trivial⟩

end Task.PostsOn

/-- What a wait ends with posts nothing. -/
theorem posts_of_resolve
    {q : Wait}
    {refusal : Option Fault}
    {answer : q.Answer}
    (hresolve : q.resolve refusal world = some (answer, later)) :
    Posts on world later := by
  cases q with
  | permit => exact (passes_of_permit hresolve).1.posts on
  | connection =>
      obtain ⟨rfl, -⟩ | ⟨-, rfl⟩ := resolve_connection hresolve
      · exact (Passes.refl later).posts on
      · exact ⟨rfl, fun _ _ => .refl _⟩
  | reply connection position =>
      simp only [Wait.resolve, Option.map_eq_some_iff, Prod.mk.injEq] at hresolve
      obtain ⟨-, -, -, rfl⟩ := hresolve
      exact (frame_posts on).quiet rfl rfl

/-- A call that runs by itself posts where it says. -/
theorem Task.PostsOn.run
    (htask : task.PostsOn on)
    (cutoff : Option Nat)
    (world : World (State Wire) S) :
    Ends (fun _ left => Posts on world left) (fun left => Posts on world left)
      ((task.work Wire.network).run cutoff world) := by
  have hframe := frame_posts (S := S) on
  induction task generalizing world with
  | done a => exact hframe.quiet rfl rfl
  | act next change ih =>
      have hnext := ih world (htask world).2 (change world)
      refine hnext.imp (fun _ left hleft => ?_) fun left hleft => ?_
      · exact hframe.trans (htask world).1 hleft
      · exact hframe.trans (htask world).1 hleft
  | wait w next dropped ih =>
      apply ends_bind
      apply ends_onCut
      apply ends_awaited
      · intro later refusal answer left hpasses hresolve
        have hleft := hframe.trans (hpasses.posts on) (posts_of_resolve hresolve)
        refine (ih answer (htask.2 answer) left).imp (fun _ _ hlast => ?_) fun _ hlast => ?_
        · exact hframe.trans hleft hlast
        · exact hframe.trans hleft hlast
      · intro later hpasses
        exact hframe.trans (hpasses.posts on) (htask.1 later)

end Posting

section Driving

variable {on : Nat → Prop} {live : Live}

theorem posts_checkIn
    (clean : Bool)
    (live : Live)
    (world : World (State Wire) S) :
    Posts on world (Network.checkIn Wire.network clean live world) where
  openTx := by
    cases clean with
    | false => rfl
    | true =>
        change (Network.release Wire.network live world).openTx = world.openTx
        rcases release_cases live world with hgone | ⟨-, -, hkept⟩
        · rw [hgone]
          rfl
        · rw [hkept]
          rfl
  still connection _ := (drifts_checkIn clean live world).line connection

theorem posts_endTx
    (clean : Bool)
    (tx : Nat)
    (world : World (State Wire) S) :
    Posts on world (Network.endTx Wire.network clean tx world) := by
  unfold Network.endTx
  cases world.driver.held.lookup tx with
  | none => exact (Passes.refl world).posts on
  | some live =>
      have hfreed : Posts on world { world with driver :=
          { world.driver with held := world.driver.held.filter (·.1 ≠ tx) } } :=
        ⟨rfl, fun _ _ => .refl _⟩
      exact (frame_posts on).trans hfreed (posts_checkIn clean live _)

namespace Task.PostsOn

theorem openLive :
    (Network.openLive (ν := Wire) (S := S)).PostsOn on := by
  apply bind (await _)
  rintro (fault | connection)
  · trivial
  · refine bind (change fun world => ?_) fun _ => bind (look _) fun _ => trivial
    exact (frame_posts on).quiet rfl rfl

theorem acquire :
    (Network.acquire (S := S) Wire.network).PostsOn on := by
  have hpool : ∀ (f : Pool → Pool) (world : World (State Wire) S),
      Posts on world (changePool f world) :=
    fun f world => ⟨rfl, fun _ _ => .refl _⟩
  apply bind (change fun world => (Passes.settled world).posts on)
  intro _
  apply bind (await _)
  rintro (e | _)
  · trivial
  · apply bind
    · exact step fun world =>
        (frame_posts on).trans (hpool _ world) ((Passes.leaveAll _ _).posts on)
    · rintro (_ | live)
      · apply bind (onDrop openLive (hpool _))
        rintro (fault | live)
        · exact bind (change (hpool _)) fun _ => trivial
        · trivial
      · trivial

theorem request
    (request : Request) :
    (Network.request (S := S) Wire.network live request).PostsOn (· = live.connection) := by
  refine step fun world => ?_
  have hstill : Posts (· = live.connection) world world := (Passes.refl world).posts _
  cases unwritable? request with
  | some fault => exact hstill
  | none =>
      dsimp only
      split
      · refine ⟨rfl, fun connection hne => ?_⟩
        have hline := Wire.line_put_of_ne hne
          ((world.driver.network.line live.connection).post [request]) world.driver.network
        change (world.driver.network.line connection).Grows []
          ((world.driver.network.put live.connection _).line connection)
        rw [hline]
        exact .refl _
      · exact hstill

theorem outcome
    (live : Live)
    (posted : Posted) :
    (Network.outcome (S := S) (ν := Wire) live posted).PostsOn on := by
  cases posted with
  | ok position => exact await _
  | error fault => trivial

theorem runScript
    (text : String) :
    (Network.runScript (S := S) Wire.network live text).PostsOn (· = live.connection) := by
  apply bind (request _)
  intro posted
  apply bind (outcome live posted)
  rintro (fault | reply) <;> trivial

theorem postAll
    (statements : List Statement) :
    (Network.postAll (S := S) Wire.network live statements).PostsOn (· = live.connection) := by
  induction statements with
  | nil => trivial
  | cons first rest ih => exact bind (request _) fun _ => bind ih fun _ => trivial

theorem outcomes
    (live : Live)
    (posted : List (StatementKind × Posted)) :
    (Network.outcomes (S := S) (ν := Wire) live posted).PostsOn on := by
  induction posted with
  | nil => trivial
  | cons first rest ih => exact bind (outcome live _) fun _ => bind ih fun _ => trivial

theorem postFrame
    (framed : Bool)
    (text : String) :
    (Network.postFrame (S := S) Wire.network live framed text).PostsOn (· = live.connection) := by
  cases framed with
  | false => trivial
  | true => exact bind (request _) fun _ => trivial

theorem frameOutcome
    (live : Live)
    (posted : Option Posted) :
    (Network.frameOutcome (S := S) (ν := Wire) live posted).PostsOn on := by
  cases posted with
  | none => trivial
  | some posted => exact bind (outcome live posted) fun _ => trivial

theorem pipeline
    (statements : List Statement)
    (framed : Bool) :
    (Network.pipeline (S := S) Wire.network live statements framed).PostsOn
      (· = live.connection) := by
  apply bind (postFrame framed _)
  intro begun
  apply bind (postAll statements)
  intro posted
  apply bind (postFrame framed _)
  intro committed
  apply bind (frameOutcome live begun)
  intro begun
  apply bind (outcomes live posted)
  intro results
  apply bind (frameOutcome live committed)
  exact fun _ => trivial

theorem batchOn
    (statements : List Statement) :
    (Network.batchOn (S := S) Wire.network statements live).PostsOn (· = live.connection) := by
  apply bind
  · exact onDrop (pipeline statements _) fun world => posts_checkIn false live world
  · exact fun _ => bind (change fun world => posts_checkIn true live world) fun _ => trivial

theorem beginOn :
    (Network.beginOn (S := S) Wire.network live).PostsOn (· = live.connection) := by
  apply bind
  · exact onDrop (runScript "BEGIN") fun world => posts_checkIn false live world
  · rintro (e | _)
    · exact bind (change fun world => posts_checkIn false live world) fun _ => trivial
    · exact step fun world => ⟨rfl, fun _ _ => .refl _⟩

end Task.PostsOn
end Driving

section Calls

variable {on : Nat → Prop} {world : World (State Wire) S} {others : List Stake}
variable {live : Live} {line : Line} {tx : Nat}

/-- Run by itself, a call keeps its contract and posts where it says. -/
theorem Task.Meets.alone
    {task : Task Wire S α}
    {contract : Contract S α}
    (hmeets : task.Meets contract world others)
    (hposts : task.PostsOn on)
    (cutoff : Option Nat) :
    Ends (fun a left => contract.returned a left others ∧ Posts on world left)
      (fun left => contract.dropped left others ∧ Posts on world left)
      ((task.work Wire.network).run cutoff world) :=
  (hmeets.run cutoff).and (hposts.run cutoff world)

/-- A call that checks a connection out goes on with a quiet one, or fails for want of one. -/
theorem ends_checkOut
    {use : Live → Task Wire S (Except DriverError α)}
    {done : Except DriverError α → World (State Wire) S → Prop}
    {cut : World (State Wire) S → Prop}
    {cutoff : Option Nat}
    (hsound : Sound world.driver others)
    (huse : ∀ live line left, Holding none live line left others → line.Quiet →
      Posts (fun _ => False) world left →
        Ends done cut (((use live).work Wire.network).run cutoff left))
    (hrefused : ∀ source left, Posts (fun _ => False) world left →
      done (.error (.connection source)) left)
    (hcut : ∀ left, Posts (fun _ => False) world left → cut left) :
    Ends done cut (((Network.checkOut Wire.network use).work Wire.network).run cutoff world) := by
  change Ends done cut (((Network.acquire Wire.network >>= _).work Wire.network).run cutoff world)
  rw [Task.run_bind]
  apply ends_bind
  have hnowhere := @Task.PostsOn.acquire S fun _ => False
  refine ((meets_acquire hsound).alone hnowhere cutoff).imp ?_ ?_
  · rintro (e | live) left ⟨hleft, hposts⟩
    · obtain ⟨-, source, rfl⟩ := hleft
      exact hrefused source left hposts
    · obtain ⟨line, hholding, hquiet⟩ := hleft
      exact huse live line left hholding hquiet hposts
  · rintro left ⟨-, hposts⟩
    exact hcut left hposts

/-- A call posts on one connection only if it posts nothing before it has that one. -/
theorem Posts.then
    {left later : World (State Wire) S}
    (hfirst : Posts (fun _ => False) world left)
    (hsecond : Posts on left later) :
    Posts on world later :=
  (frame_posts on).trans (hfirst.widen fun _ hfalse => hfalse.elim) hsecond

/-- Before a connection is checked out, no block was begun. -/
theorem Posts.notBegun
    {left : World (State Wire) S}
    (hposts : Posts (fun _ => False) world left) :
    NotBegun world.driver.network left.driver.network :=
  ⟨0, ⟨[], List.nil_prefix, hposts.still 0 id⟩, fun other _ => hposts.still other id⟩

/-- A transaction begins on a line that was quiet and was told of its `BEGIN`. If it does not, then
that was posted at most. -/
theorem ends_begin
    (hsound : Sound world.driver others)
    (cutoff : Option Nat) :
    Ends (fun answer left =>
        (∀ tx, answer = .ok tx → ∃ live line later, line.Quiet ∧
          (world.driver.network.line live.connection).Grows [] line ∧
          Holding (some tx) live later left others ∧ line.Scripted "BEGIN" later (.ok ()) ∧
          Posts (· = live.connection) world left) ∧
        ∀ e, answer = .error e → NotBegun world.driver.network left.driver.network)
      (fun left => NotBegun world.driver.network left.driver.network)
      (Wire.network.driver.begin.run cutoff world) := by
  refine ends_checkOut hsound ?_ ?_ fun _ hposts => hposts.notBegun
  · intro live line between hholding hquiet hbefore
    have hstart := hbefore.still live.connection id
    rw [hholding.now] at hstart
    have hunbegun : ∀ {later : Line} {left : World (State Wire) S},
        Sound left.driver (⟨none, live, later⟩ :: others) → line.Attempted "BEGIN" later →
          Posts (· = live.connection) between left →
            NotBegun world.driver.network left.driver.network := by
      intro later left hleft hattempted hposts
      refine ⟨live.connection, (hattempted.grow hleft.grown_self).after hstart, ?_⟩
      exact (hbefore.then hposts).still
    refine ((meets_beginOn hholding).alone Task.PostsOn.beginOn cutoff).imp ?_ ?_
    · rintro (e | tx) left ⟨⟨later, hlater⟩, hposts⟩
      · exact ⟨fun _ h => (nomatch h), fun _ _ => hunbegun hlater.1 hlater.2 hposts⟩
      · refine ⟨fun _ htx => ?_, fun _ h => (nomatch h)⟩
        obtain rfl := Except.ok.inj htx
        exact ⟨live, line, later, hquiet, hstart, hlater.1, hlater.2, hbefore.then hposts⟩
    · rintro left ⟨⟨later, hleft, hattempted⟩, hposts⟩
      exact hunbegun hleft hattempted hposts
  · exact fun source left hposts => ⟨fun _ h => (nomatch h), fun _ _ => hposts.notBegun⟩

/-- Statements on a connection of the pool are posted there, on a line that was quiet. -/
theorem ends_send
    (statements : List Statement)
    (hsound : Sound world.driver others)
    (cutoff : Option Nat) :
    Ends (fun answers left =>
        (∃ source, answers = .error (.connection source) ∧ Posts (fun _ => False) world left) ∨
          ∃ (live : Live) (line : Line), line.Quiet ∧
            (world.driver.network.line live.connection).Grows [] line ∧
            line.Piped statements (1 < statements.length)
              (left.driver.network.line live.connection) answers ∧
            Sound left.driver others ∧ Posts (· = live.connection) world left)
      (fun _ => True) ((Wire.network.driver.send statements).run cutoff world) := by
  refine ends_checkOut hsound ?_ (fun source left hposts => ?_) (fun _ _ => trivial)
  · intro live line between hholding hquiet hbefore
    have hposts := @Task.PostsOn.batchOn S live statements
    have halone := (meets_batchOn statements hholding hquiet).alone hposts cutoff
    refine halone.imp ?_ fun _ _ => trivial
    rintro answers left ⟨⟨hleft, hpiped⟩, hposts⟩
    have hstart := hbefore.still live.connection id
    rw [hholding.now] at hstart
    exact .inr ⟨live, line, hquiet, hstart, hpiped, hleft, hbefore.then hposts⟩
  · exact .inl ⟨source, rfl, hposts⟩

/-- A call in a transaction runs on the connection that the transaction holds. -/
theorem run_heldBy
    {next : Option Live → Task Wire S α}
    (hholding : Holding (some tx) live line world others)
    (cutoff : Option Nat) :
    ((Network.heldBy tx >>= next).work Wire.network).run cutoff world
      = ((next (some live)).work Wire.network).run cutoff world := by
  change ((next (world.driver.held.lookup tx)).work Wire.network).run cutoff world = _
  rw [hholding.sound.lookup rfl]

/-- Statements in a transaction are posted on its connection, which stays with it also if they are
given up. -/
theorem ends_sendIn
    (statements : List Statement)
    (hholding : Holding (some tx) live line world others)
    (cutoff : Option Nat) :
    Ends (fun answers left => ∃ later, Holding (some tx) live later left others ∧
        line.Piped statements false later answers ∧ Posts (· = live.connection) world left)
      (fun left => ∃ later, Holding (some tx) live later left others ∧
        (line.pipelined statements false).Grows [] later ∧ Posts (· = live.connection) world left)
      ((Wire.network.driver.sendIn tx statements).run cutoff world) := by
  have hrun : (Wire.network.driver.sendIn tx statements).run cutoff world
      = ((Network.pipeline Wire.network live statements false).work Wire.network).run cutoff
        world :=
    run_heldBy hholding cutoff
  rw [hrun]
  have hposts := @Task.PostsOn.pipeline S live statements false
  refine ((meets_pipeline statements false hholding).alone hposts cutoff).imp ?_ ?_
  · rintro answers left ⟨⟨later, hlater, hpiped⟩, hposts⟩
    exact ⟨later, hlater, hpiped, hposts⟩
  · rintro left ⟨⟨later, hsound, hgrows⟩, hposts⟩
    exact ⟨_, hsound.holding, hgrows.trans_still hsound.grown_self, hposts⟩

/-- The end of a transaction is posted on its connection, if it can be, also if it is given up. -/
theorem ends_finish
    {command : String}
    (hends : (Request.script command).endsBlock = true)
    (hholding : Holding (some tx) live line world others)
    (cutoff : Option Nat) :
    Ends (fun answer left =>
        (∀ e, answer = .error e → OfConnection e ∧
          line.Attempted command (left.driver.network.line live.connection)) ∧
          (answer = .ok () →
            line.Scripted command (left.driver.network.line live.connection) (.ok ())) ∧
          Posts (· = live.connection) world left)
      (fun left => line.Attempted command (left.driver.network.line live.connection) ∧
        Posts (· = live.connection) world left)
      (((Network.finish Wire.network command tx).work Wire.network).run cutoff world) := by
  have hposts : Ends (fun _ left => Posts (· = live.connection) world left)
      (fun left => Posts (· = live.connection) world left)
      (((Network.finish Wire.network command tx).work Wire.network).run cutoff world) := by
    unfold Network.finish
    rw [run_heldBy hholding]
    have hscript : (Task.onDrop (Network.endTx Wire.network false tx)
        (Network.runScript (S := S) Wire.network live command)).PostsOn (· = live.connection) :=
      .onDrop (.runScript command) (posts_endTx false tx)
    refine (hscript.bind fun answer => ?_).run cutoff world
    exact .bind (.change (posts_endTx answer.isOk tx)) fun _ => trivial
  refine ((meets_finish hends hholding).run cutoff).and hposts |>.imp ?_ ?_
  · rintro (e | _) left ⟨hfinished, hposts⟩
    · obtain ⟨hconnection, later, hsound, hattempted⟩ := hfinished
      refine ⟨fun _ he => ?_, fun hok => (nomatch hok), hposts⟩
      exact ⟨Except.error.inj he ▸ hconnection, hattempted.grow hsound.grown_self⟩
    · exact ⟨fun _ he => (nomatch he), fun _ => hfinished.2, hposts⟩
  · rintro left ⟨⟨later, hsound, hattempted⟩, hposts⟩
    exact ⟨hattempted.grow hsound.grown_self, hposts⟩

end Calls

section Runs

/-- Turns that take no time, in each of which the server runs and tells the next request of the
first line, if there is a verdict. -/
def answering (verdicts : List (Option Verdict)) : List Turn :=
  verdicts.map fun
    | none => { ms := some 0 }
    | some verdict => { moves := [(0, .run verdict), (0, .tell)], ms := some 0 }

/-- A pool that was not used yet, before turns that take no time. -/
def fresh (store : S) (verdicts : List (Option Verdict)) : World (State Wire) S :=
  { now := 0, spans := [], notes := [], openTx := [], store := store,
    driver := State.start {} { future := answering verdicts } }

theorem reached_fresh
    (store : S)
    (verdicts : List (Option Verdict)) :
    Reached (fresh store verdicts).driver :=
  ⟨{}, answering verdicts, [], _, by simp, rfl, rfl⟩

end Runs

end Postgres
end QueryBatch
