import QueryBatch.Proofs.Postgres.Driver

/-!
# Connections are given back quiet

A call that checks a connection out gives it back only if its line is quiet; otherwise its stake
stays for ever. One lemma for each call of the driver says which of the two happens, and what became
of the requests that the call posted.
-/

namespace QueryBatch
namespace Postgres

variable {S α β : Type}

/-- An error that puts no statement to blame. -/
def OfConnection (e : DriverError) : Prop := ∃ source, e = .connection source

namespace Line

variable {line later : Line} {text : String} {statements : List Statement}
variable {answers : Answers Row}

theorem Scripted.ofConnection
    {e : DriverError}
    (hscripted : line.Scripted text later (.error e)) :
    OfConnection e := by
  obtain ⟨-, result, -, hanswer⟩ := hscripted
  cases result with
  | error fault => exact ⟨_, Except.error.inj hanswer⟩
  | ok reply => cases hanswer

/-- A script that was answered without an error was posted and accepted. -/
theorem Scripted.accepted
    (hscripted : line.Scripted text later (.ok ())) :
    line.Grows [.script text] later ∧
      ∃ reply, later.told[line.posted.length]? = some ⟨.script text, .accepted reply⟩ := by
  obtain ⟨hgrows, result, hlearned, hanswer⟩ := hscripted
  cases result with
  | error fault => cases hanswer
  | ok reply =>
      rcases line.submit_cases (.script text) with
        ⟨fault, -, hsubmit⟩ | ⟨-, -, hsubmit⟩ | ⟨-, -, hsubmit⟩
      · simp [hsubmit, Learned] at hlearned
      · simp [hsubmit, Learned] at hlearned
      · rw [hsubmit] at hgrows hlearned
        have hposted := (Grows.post line [.script text]).trans_still hgrows
        obtain ⟨request, htold⟩ := told_of_accepted hlearned
        have hrequest := posted_of_told htold
        rw [hposted.posted] at hrequest
        simp only [List.getElem?_concat_length, Option.some.injEq] at hrequest
        exact ⟨hposted, reply, by rw [htold, ← hrequest]⟩

/-- A plain script on a quiet line leaves it quiet, if it is answered without an error. -/
theorem Scripted.quiet
    (hscripted : line.Scripted text later (.ok ()))
    (hplain : Plain text)
    (hquiet : line.Quiet) :
    later.Quiet := by
  obtain ⟨hgrows, reply, htold⟩ := hscripted.accepted
  have hall := length_told_of_last htold (by simp [hgrows.posted])
  refine hquiet.again hgrows hall fun block hblock hnone => ?_
  obtain ⟨⟨request, verdict⟩, rfl⟩ : ∃ ran, block = [ran] := by
    rw [← List.length_eq_one_iff, ← List.length_map (f := Ran.request), hblock]
    rfl
  obtain rfl : request = .script text := by simpa using hblock
  rw [replay_append]
  exact block_after_plain hplain hnone

/-- The end of a block leaves a line quiet, if it is answered without an error. -/
theorem Scripted.quiet_of_end
    (hscripted : line.Scripted text later (.ok ()))
    (hends : (Request.script text).endsBlock = true) :
    later.Quiet := by
  obtain ⟨hgrows, reply, htold⟩ := hscripted.accepted
  exact Quiet.of_end htold hends (by simp [hgrows.posted])

/-- What the client has learned of a request that it posted last was told, if the connection is not
lost. -/
theorem told_of_learned
    {request : Request}
    {result : Result}
    (hgrows : (line.post [request]).Grows [] later)
    (hlearned : later.Learned (.ok line.posted.length) result)
    (hup : later.up = true) :
    ∃ verdict, later.told[line.posted.length]? = some ⟨request, verdict⟩ := by
  have hposted := (Grows.post line [request]).trans_still hgrows
  have hrequest : ∀ {other : Ran}, later.told[line.posted.length]? = some other →
      other.request = request := by
    intro other htold
    have hother := posted_of_told htold
    rw [hposted.posted] at hother
    simpa [eq_comm] using hother
  cases result with
  | ok reply =>
      obtain ⟨other, htold⟩ := told_of_accepted hlearned
      exact ⟨_, by rw [htold, ← hrequest htold]⟩
  | error fault =>
      rcases told_of_fault hlearned with ⟨-, other, htold⟩ | ⟨-, hlost⟩
      · exact ⟨_, by rw [htold, ← hrequest htold]⟩
      · simp [hlost] at hup

/-- A single statement leaves a quiet line quiet, if it is not lost. -/
theorem quiet_of_single
    {statement : Statement}
    {result : Result}
    (hgrows : (line.submit (.statement statement.sql)).2.Grows [] later)
    (hlearned : later.Learned (line.submit (.statement statement.sql)).1 result)
    (hquiet : line.Quiet)
    (hup : later.up = true) :
    later.Quiet := by
  rcases line.submit_cases (.statement statement.sql) with
    ⟨fault, -, hsubmit⟩ | ⟨-, -, hsubmit⟩ | ⟨-, -, hsubmit⟩
  · rw [hsubmit] at hgrows
    exact hquiet.still hgrows
  · rw [hsubmit] at hgrows
    exact hquiet.still hgrows
  · rw [hsubmit] at hgrows hlearned
    obtain ⟨verdict, htold⟩ := told_of_learned hgrows hlearned hup
    have hposted := (Grows.post line [.statement statement.sql]).trans_still hgrows
    have hall := length_told_of_last htold (by simp [hposted.posted])
    refine hquiet.again hposted hall fun block hblock hnone => ?_
    obtain ⟨⟨request, verdict⟩, rfl⟩ : ∃ ran, block = [ran] := by
      rw [← List.length_eq_one_iff, ← List.length_map (f := Ran.request), hblock]
      rfl
    obtain rfl : request = .statement statement.sql := by simpa using hblock
    rw [replay_append]
    exact block_after_statement hnone

/-- The end of a frame leaves any line quiet, if it is not lost. -/
theorem quiet_of_frame
    {result : Option Result}
    (hgrows : (line.submitFrame true "COMMIT").2.Grows [] later)
    (hlearned : later.LearnedFrame (line.submitFrame true "COMMIT").1 result)
    (hup : later.up = true) :
    later.Quiet := by
  obtain ⟨result, rfl⟩ : ∃ known, result = some known := by
    cases result with
    | none => cases hlearned
    | some known => exact ⟨known, rfl⟩
  change (line.submit (.script "COMMIT")).2.Grows [] later at hgrows
  change later.Learned (line.submit (.script "COMMIT")).1 result at hlearned
  rcases line.submit_cases (.script "COMMIT") with
    ⟨fault, hwritable, -⟩ | ⟨-, hlost, hsubmit⟩ | ⟨-, -, hsubmit⟩
  · have hnone : unwritable? (.script "COMMIT") = none := by decide
    simp [hnone] at hwritable
  · rw [hsubmit] at hgrows
    simp [(hgrows.lost hlost).1] at hup
  · rw [hsubmit] at hgrows hlearned
    obtain ⟨verdict, htold⟩ := told_of_learned hgrows hlearned hup
    have hposted := (Grows.post line [.script "COMMIT"]).trans_still hgrows
    have hends : (Request.script "COMMIT").endsBlock = true := by decide
    exact Quiet.of_end htold hends (by simp [hposted.posted])

/-- A pipeline of a single statement or of a frame leaves a quiet line quiet, if it is not lost. -/
theorem Piped.quiet
    (hpiped : line.Piped statements (1 < statements.length) later answers)
    (hquiet : line.Quiet)
    (hup : later.up = true) :
    later.Quiet := by
  obtain ⟨hgrows, begun, results, committed, -, hresults, hcommitted, -⟩ := hpiped
  by_cases hmany : 1 < statements.length
  · simp only [hmany, decide_true] at hgrows hcommitted
    exact quiet_of_frame hgrows hcommitted hup
  · simp only [hmany, decide_false] at hgrows hresults
    rcases statements with _ | ⟨statement, _ | ⟨second, rest⟩⟩
    · exact hquiet.still hgrows
    · obtain ⟨result, rest, ⟨-, hlearned⟩, -, rfl⟩ := List.forall₂_cons_left_iff.mp hresults
      exact quiet_of_single hgrows hlearned hquiet hup
    · simp at hmany

end Line

section Pool

variable {world : World (State Wire) S} {others : List Stake}
variable {tx? : Option Nat} {live : Live} {line : Line}

/-- A connection that is let go keeps its stake. -/
theorem Sound.discard
    {stakes : List Stake}
    (hsound : Sound world.driver stakes)
    (live : Live) :
    Sound (Network.checkIn Wire.network false live world).driver stakes := by
  let noted := world.note "DEBUG"
    [("message", "discarding database connection in an unknown state")]
  have hnoted : Passes world noted := .of_driver rfl rfl
  exact hsound.passes ((hnoted.trans (.leave live.connection noted)).trans (.changePool rfl))

/-- A pool lets a connection go that is put back, if it is closed or the connection is; otherwise the
connection is idle from now on. -/
theorem release_cases
    (live : Live)
    (world : World (State Wire) S) :
    Network.release Wire.network live world
        = changeNetwork (Wire.network.leave live.connection) world ∨
      (world.driver.pool.closed = false ∧
        (world.driver.network.line live.connection).up = true ∧
        Network.release Wire.network live world = changePool (fun pool =>
          { pool with idle := ⟨live, world.now⟩ :: pool.idle }) world) := by
  unfold Network.release Pool.release
  by_cases hkept : (world.driver.pool.closed ||
      !Wire.network.isOpen world.driver.network live.connection) = true
  · rw [if_pos hkept]
    exact .inl rfl
  · rw [if_neg hkept]
    simp only [Bool.or_eq_true, Bool.not_eq_true', not_or, Bool.not_eq_true, Bool.not_eq_false]
      at hkept
    exact .inr ⟨hkept.1, hkept.2, rfl⟩

/-- A connection whose line is quiet or lost may be given back. -/
theorem Sound.restore
    (hsound : Sound world.driver (⟨none, live, line⟩ :: others))
    (hquiet : (world.driver.network.line live.connection).up = true →
      (world.driver.network.line live.connection).Quiet) :
    Sound (Network.release Wire.network live world).driver others := by
  rcases release_cases live world with hgone | ⟨-, hup, hkept⟩
  · rw [hgone]
    exact (hsound.forget rfl).passes (.leave live.connection world)
  · rw [hkept]
    exact hsound.giveBack rfl (hquiet hup) world.now

/-- A call gives its connection back with the permit. -/
theorem Sound.checkIn
    (hsound : Sound world.driver (⟨none, live, line⟩ :: others))
    (hquiet : (world.driver.network.line live.connection).up = true →
      (world.driver.network.line live.connection).Quiet) :
    Sound (Network.checkIn Wire.network true live world).driver others :=
  (hsound.restore hquiet).passes (.changePool rfl)

/-- Giving a connection back lets the wire drift at most. -/
theorem drifts_checkIn
    (clean : Bool)
    (live : Live)
    (world : World (State Wire) S) :
    world.driver.network.Drifts
      (Network.checkIn Wire.network clean live world).driver.network := by
  cases clean with
  | false => exact .move _ _
  | true =>
      change world.driver.network.Drifts
        (Network.release Wire.network live world).driver.network
      rcases release_cases live world with hgone | ⟨-, -, hkept⟩
      · rw [hgone]
        exact .move _ _
      · rw [hkept]
        exact .refl _

/-- A search finds the first connection that may be used, with those before it and those after it,
or there is none. -/
theorem Pool.search_cases
    (usable : Idle → Bool)
    (idle : List Idle) :
    (∃ newer entry older, idle = newer ++ entry :: older ∧ usable entry = true ∧
        (∀ other ∈ newer, usable other = false) ∧
        search usable idle = (some entry.live, older, newer)) ∨
      ((∀ other ∈ idle, usable other = false) ∧ search usable idle = (none, [], idle)) := by
  induction idle with
  | nil => exact .inr ⟨by simp, rfl⟩
  | cons first rest ih =>
      cases hfirst : usable first with
      | true => exact .inl ⟨[], first, rest, rfl, hfirst, by simp, by simp [search, hfirst]⟩
      | false =>
          rcases ih with ⟨newer, entry, older, rfl, hentry, hnewer, hsearch⟩ | ⟨hnone, hsearch⟩
          · refine .inl ⟨first :: newer, entry, older, rfl, hentry, ?_, ?_⟩
            · exact List.forall_mem_cons.mpr ⟨hfirst, hnewer⟩
            · simp [search, hfirst, hsearch]
          · refine .inr ⟨List.forall_mem_cons.mpr ⟨hfirst, hnone⟩, ?_⟩
            simp [search, hfirst, hsearch]

/-- The contract of a call that checks a connection out: if it does, the line is quiet, and if it
does not, this is known of the error. -/
def checkingOut {ε : Type} (known : ε → Prop) : Contract S (Except ε Live) where
  during mine := mine = []
  dropped world others := Sound world.driver others
  returned result world others :=
    match result with
    | .ok live => ∃ line, Holding none live line world others ∧ line.Quiet
    | .error e => Sound world.driver others ∧ known e


/-- A new connection is quiet. -/
theorem meets_openLive
    (hsound : Sound world.driver others) :
    (Network.openLive).Meets (checkingOut fun _ => True) world others := by
  refine ⟨[], hsound, rfl, fun later others hsound => ⟨hsound, ?_⟩⟩
  intro refusal result left hresult
  obtain ⟨rfl, fault, rfl⟩ | ⟨rfl, rfl⟩ := resolve_connection hresult
  · exact ⟨hsound, trivial⟩
  · refine ⟨{}, ⟨hsound.openLine later.now, ?_⟩, .blank⟩
    exact hsound.beyond _ le_rfl

/-- Asking for a permit changes nothing else, and no statement is to blame for a refusal. -/
theorem passes_of_permit
    {later left : World (State Wire) S}
    {refusal : Option Fault}
    {granted : Except DriverError Unit}
    (hgranted : Wait.resolve refusal later .permit = some (granted, left)) :
    Passes later left ∧ ∀ e, granted = .error e → OfConnection e := by
  obtain ⟨rfl, rfl⟩ | ⟨rfl, permits, -, rfl⟩ := resolve_permit hgranted
  · exact ⟨.refl left, fun e he => ⟨_, (Except.error.inj he).symm⟩⟩
  · exact ⟨.changePool rfl, by simp⟩

/-- Checking a connection out ends with a quiet one that nobody else uses. -/
theorem meets_acquire
    (hsound : Sound world.driver others) :
    (Network.acquire Wire.network).Meets (checkingOut OfConnection) world others := by
  refine ⟨[], hsound.passes (.settled world), rfl, fun later others hsound => ⟨hsound, ?_⟩⟩
  intro refusal granted left hgranted
  obtain ⟨hpasses, hblames⟩ := passes_of_permit hgranted
  have hsound := hsound.passes hpasses
  cases granted with
  | error e => exact ⟨hsound, hblames e rfl⟩
  | ok _ =>
      apply meets_step_bind.mpr
      simp only [Pool.takeIdle]
      rcases Pool.search_cases (Pool.reusable left.driver.pool.options left.now
        (Wire.network.isOpen left.driver.network)) left.driver.pool.idle
        with ⟨newer, entry, older, hidle, -, -, hsearch⟩ | ⟨-, hsearch⟩
      · simp only [hsearch]
        have hquiet := hsound.quiet entry (by simp [hidle])
        have hleft := Passes.leaveAll newer
          (changePool (fun pool => { pool with idle := older }) left)
        have htaken := (hsound.take hidle).passes hleft
        exact ⟨_, htaken.holding, hquiet.still (hleft.wire.line _)⟩
      · simp only [hsearch]
        have hempty := (hsound.dropIdle [] (List.nil_sublist _)).passes
          (Passes.leaveAll left.driver.pool.idle
            (changePool (fun pool => { pool with idle := [] }) left))
        apply Task.Meets.bind
        apply Task.Meets.onDrop
        refine (meets_openLive hempty).imp (fun _ hmine => hmine) ?_ ?_
        · intro left others hsound
          exact hsound.passes (.changePool rfl)
        · rintro (fault | live) left others hopened
          · exact ⟨hopened.1.passes (.changePool rfl), _, rfl⟩
          · exact hopened

end Pool

section CheckedOut

variable {world : World (State Wire) S} {others : List Stake}
variable {live : Live} {line : Line} {tx : Nat}

/-- The contract of a call that was handed a connection. If it is dropped, its stake stays with what
is known of the line then. -/
def handedOut (live : Live) (cut : Line → Prop)
    (returned : α → World (State Wire) S → List Stake → Prop) : Contract S α where
  during mine := ∃ line, mine = [⟨none, live, line⟩]
  dropped world others := ∃ line, Sound world.driver (⟨none, live, line⟩ :: others) ∧ cut line
  returned := returned

/-- The contract of a call that ends a transaction. If it is dropped, the stake of its connection
stays with what is known of the line then. -/
def ending (tx : Nat) (live : Live) (cut : Line → Prop)
    (returned : α → World (State Wire) S → List Stake → Prop) : Contract S α where
  during mine := ∃ line, mine = [⟨some tx, live, line⟩]
  dropped world others := ∃ line, Sound world.driver (⟨none, live, line⟩ :: others) ∧ cut line
  returned := returned

/-- A script whose failure or loss makes its connection be let go. -/
theorem meets_guarded
    (text : String)
    (hholding : Holding none live line world others) :
    (Task.onDrop (Network.checkIn Wire.network false live)
        (Network.runScript Wire.network live text)).Meets
      (handedOut live (line.Attempted text) fun answer left others =>
        ∃ later, Holding none live later left others ∧ line.Scripted text later answer)
      world others := by
  apply Task.Meets.onDrop
  refine (meets_runScript text hholding).imp (fun _ hmine => hmine) ?_ (fun _ _ _ h => h)
  rintro left others ⟨later, hsound, hgrows⟩
  exact ⟨later, hsound.discard live, Line.attempted_of_submit hgrows⟩

/-- A script gives its connection back if it succeeds. -/
theorem meets_scriptOn
    {text : String}
    (hplain : Plain text)
    (hholding : Holding none live line world others)
    (hquiet : line.Quiet) :
    (Network.scriptOn Wire.network text live).Meets
      (handedOut live (line.Attempted text) fun answer left others =>
        match answer with
        | .ok () => Sound left.driver others
        | .error _ => ∃ later, Sound left.driver (⟨none, live, later⟩ :: others)) world others := by
  apply Task.Meets.bind
  refine (meets_guarded text hholding).imp (fun _ h => h) (fun _ _ h => h) ?_
  rintro (e | _) left others ⟨later, hlater, hscripted⟩
  · exact ⟨later, hlater.sound.discard live⟩
  · refine hlater.sound.checkIn fun _ => ?_
    rw [hlater.now]
    exact hscripted.quiet hplain hquiet

/-- A transaction begins on a line that was told of its `BEGIN`. If it does not, nothing else was
posted there. -/
theorem meets_beginOn
    (hholding : Holding none live line world others) :
    (Network.beginOn Wire.network live).Meets
      (handedOut live (line.Attempted "BEGIN") fun answer left others =>
        ∃ later, match answer with
        | .ok tx => Holding (some tx) live later left others ∧ line.Scripted "BEGIN" later (.ok ())
        | .error _ => Sound left.driver (⟨none, live, later⟩ :: others) ∧
            line.Attempted "BEGIN" later) world others := by
  apply Task.Meets.bind
  refine (meets_guarded "BEGIN" hholding).imp (fun _ h => h) (fun _ _ h => h) ?_
  rintro (e | _) left others ⟨later, hlater, hscripted⟩
  · exact ⟨later, hlater.sound.discard live, hscripted.attempted⟩
  · exact ⟨later, ⟨hlater.sound.begin rfl, hlater.now⟩, hscripted⟩

/-- Statements on a connection of the pool give it back, whatever the answers are. -/
theorem meets_batchOn
    (statements : List Statement)
    (hholding : Holding none live line world others)
    (hquiet : line.Quiet) :
    (Network.batchOn Wire.network statements live).Meets
      (handedOut live (fun later =>
        (line.pipelined statements (1 < statements.length)).Grows [] later)
          fun answers left others =>
        Sound left.driver others ∧
          line.Piped statements (1 < statements.length)
            (left.driver.network.line live.connection) answers) world others := by
  apply Task.Meets.bind
  apply Task.Meets.onDrop
  refine (meets_pipeline statements _ hholding).imp (fun _ h => h) ?_ ?_
  · rintro left others ⟨later, hsound, hgrows⟩
    exact ⟨later, hsound.discard live, hgrows⟩
  · rintro answers left others ⟨later, hlater, hpiped⟩
    constructor
    · refine hlater.sound.checkIn fun hup => ?_
      rw [hlater.now] at hup ⊢
      exact hpiped.quiet hquiet hup
    · have hleft := (drifts_checkIn true live left).line live.connection
      rw [hlater.now] at hleft
      exact hpiped.grow hleft

/-- A transaction that lets its connection go is none any more. -/
theorem Sound.endTx
    (hsound : Sound world.driver (⟨some tx, live, line⟩ :: others)) :
    ∃ freed : World (State Wire) S, freed.driver.network = world.driver.network ∧
      Sound freed.driver (⟨none, live, line⟩ :: others) ∧
      ∀ clean, Network.endTx Wire.network clean tx world
        = Network.checkIn Wire.network clean live freed := by
  refine ⟨{ world with driver :=
    { world.driver with held := world.driver.held.filter (·.1 ≠ tx) } }, rfl,
    hsound.leaveTx rfl, fun clean => ?_⟩
  unfold Network.endTx
  rw [hsound.lookup rfl]

/-- An unfinished transaction that is dropped keeps the stake of its connection. -/
theorem Sound.abandon
    (hsound : Sound world.driver (⟨some tx, live, line⟩ :: others)) :
    Sound (Network.endTx Wire.network false tx world).driver (⟨none, live, line⟩ :: others) := by
  obtain ⟨freed, -, hfreed, hend⟩ := hsound.endTx
  rw [hend]
  exact hfreed.discard live

/-- A transaction gives its connection back if the end of its block succeeds. If that does not, it
was posted at most, and nothing else was. -/
theorem meets_finish
    {command : String}
    (hends : (Request.script command).endsBlock = true)
    (hholding : Holding (some tx) live line world others) :
    (Network.finish Wire.network command tx).Meets
      (ending tx live (line.Attempted command) fun answer left others =>
        match answer with
        | .ok () => Sound left.driver others ∧
            line.Scripted command (left.driver.network.line live.connection) (.ok ())
        | .error e => OfConnection e ∧ ∃ later,
            Sound left.driver (⟨none, live, later⟩ :: others) ∧ line.Attempted command later)
      world others := by
  apply meets_look_bind.mpr
  rw [hholding.sound.lookup rfl]
  apply Task.Meets.bind
  apply Task.Meets.onDrop
  refine (meets_runScript command hholding).imp (fun _ hmine => hmine) ?_ ?_
  · rintro left others ⟨later, hsound, hgrows⟩
    exact ⟨later, hsound.abandon, Line.attempted_of_submit hgrows⟩
  · rintro (e | _) left others ⟨later, hlater, hscripted⟩
    · exact ⟨hscripted.ofConnection, later, hlater.sound.abandon, hscripted.attempted⟩
    · obtain ⟨freed, hwire, hfreed, hend⟩ := hlater.sound.endTx
      have hnow : freed.driver.network.line live.connection = later := by rw [hwire, hlater.now]
      have hgiven : Network.endTx Wire.network true tx left
          = Network.checkIn Wire.network true live freed := hend true
      constructor
      · change Sound (Network.endTx Wire.network true tx left).driver others
        rw [hgiven]
        refine hfreed.checkIn fun _ => ?_
        rw [hnow]
        exact hscripted.quiet_of_end hends
      · have hleft := (drifts_checkIn true live freed).line live.connection
        rw [hnow, ← hgiven] at hleft
        exact hscripted.grow hleft

/-- Statements in a transaction leave its connection with it, also when they are dropped. -/
theorem meets_sendIn
    (statements : List Statement)
    (hholding : Holding (some tx) live line world others) :
    (Network.sendIn Wire.network tx statements).Meets
      (onLine (some tx) live (fun later => (line.pipelined statements false).Grows [] later)
        fun answers later => line.Piped statements false later answers) world others := by
  apply meets_look_bind.mpr
  rw [hholding.sound.lookup rfl]
  exact meets_pipeline statements false hholding

/-- Filling the pool opens quiet connections only. -/
theorem meets_openIdle
    (count : Nat)
    (hsound : Sound world.driver others) :
    (Network.openIdle Wire.network count).Meets
      { during := fun mine => mine = []
        dropped := fun left others => Sound left.driver others
        returned := fun _ left others => Sound left.driver others } world others := by
  induction count generalizing world others with
  | zero => exact hsound
  | succ count ih =>
      apply Task.Meets.bind
      refine (meets_openLive hsound).imp (fun _ hmine => hmine) (fun _ _ h => h) ?_
      rintro (fault | live) left others hopened
      · exact hopened.1
      · obtain ⟨line, hline, hquiet⟩ := hopened
        apply meets_change_bind.mpr
        apply ih
        refine hline.sound.restore fun _ => ?_
        rw [hline.now]
        exact hquiet

theorem meets_fillTask
    (hsound : Sound world.driver others) :
    (Network.fillTask Wire.network).Meets
      { during := fun mine => mine = []
        dropped := fun left others => Sound left.driver others
        returned := fun _ left others => Sound left.driver others } world others :=
  meets_look_bind.mpr (meets_openIdle _ hsound)

/-- Closing a pool drops all its idle connections. -/
theorem Sound.closed
    {stakes : List Stake}
    (hsound : Sound world.driver stakes) :
    Sound (Network.closed Wire.network world).driver stakes := by
  let emptied := changePool (fun pool => { pool with idle := [] }) world
  let closed := changePool (fun pool => { pool with closed := true }) emptied
  have hempty : Sound emptied.driver stakes := hsound.dropIdle [] (List.nil_sublist _)
  have hclosed : Passes emptied closed := .changePool rfl
  exact hempty.passes (hclosed.trans (.leaveAll world.driver.pool.idle closed))

end CheckedOut
end Postgres
end QueryBatch
