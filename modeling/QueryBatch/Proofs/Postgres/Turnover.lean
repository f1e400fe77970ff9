import QueryBatch.Proofs.Postgres.Conservation

/-!
# What one step does to the connections of a pool

A step of a pool in use lets connections go, or takes an idle one that may be reused, or opens one,
or puts one among the idle ones: `Changes`. A call does one such thing at most between two waits
(`Task.Turns`), and so does everything else that happens to a pool (`PoolUsage.Orderly.next`).

Which idle connection is taken, and what becomes of the others, is said by `Pool.takeIdle_cases`.
-/

namespace QueryBatch
namespace Postgres

variable {α : Type}

section Defs

/-- An idle connection that may be reused. -/
structure Pool.Usable (options : PoolOptions) (now : Nat) (isOpen : Nat → Bool) (entry : Idle) :
    Prop where
  isOpen : isOpen entry.live.connection = true
  young : ∀ limit, options.maxLifetime = some limit → now - entry.live.opened < limit
  fresh : ∀ limit, options.idleTimeout = some limit → now - entry.since < limit

def Wire.isUp (wire : Wire) (connection : Nat) : Bool := (wire.line connection).up

/-- The connections of a pool, idle or not. -/
def livesOf (state : State Wire) (clients : List Live) : List Live :=
  state.pool.idle.map Idle.live ++ clients

/-- Time passes, connections are opened, and none that is lost comes back. -/
structure Ages (world later : World (State Wire) Unit) : Prop where
  now : world.now ≤ later.now
  options : later.driver.pool.options = world.driver.pool.options
  opened : world.driver.network.opened ≤ later.driver.network.opened
  lost : ∀ connection, world.driver.network.isUp connection = false →
    later.driver.network.isUp connection = false

/-- What one step does to the idle connections and to those of the clients. -/
inductive Turnover (world : World (State Wire) Unit) (clients : List Live)
    (later : World (State Wire) Unit) (others : List Live) : Prop
  /-- Connections are let go at most. -/
  | fewer
      (idle : later.driver.pool.idle.Sublist world.driver.pool.idle)
      (clients : others.Sublist clients)
  | reused
      {newer older : List Idle}
      {entry : Idle}
      (split : world.driver.pool.idle = newer ++ entry :: older)
      (usable : Pool.Usable world.driver.pool.options world.now world.driver.network.isUp entry)
      (unusable : ∀ other ∈ newer,
        ¬ Pool.Usable world.driver.pool.options world.now world.driver.network.isUp other)
      (idle : later.driver.pool.idle = older)
      (clients : others = entry.live :: clients)
  | opened
      (opened : later.driver.network.opened = world.driver.network.opened + 1)
      (idle : later.driver.pool.idle = world.driver.pool.idle)
      (clients : others = ⟨world.driver.network.opened, later.now⟩ :: clients)
  /-- A connection is opened in advance. -/
  | stocked
      (opened : later.driver.network.opened = world.driver.network.opened + 1)
      (idle : later.driver.pool.idle
        = ⟨⟨world.driver.network.opened, later.now⟩, later.now⟩ :: world.driver.pool.idle)
      (clients : others = clients)
  | released
      {live : Live}
      (clients : clients.Perm (live :: others))
      (idle : later.driver.pool.idle = ⟨live, later.now⟩ :: world.driver.pool.idle)

structure Changes (world : World (State Wire) Unit) (clients : List Live)
    (later : World (State Wire) Unit) (others : List Live) : Prop where
  ages : Ages world later
  turnover : Turnover world clients later others

/-- From a first moment on, a call does one step's work at most before it waits or returns. When a
wait ends, or the call is dropped, the next step begins. -/
def Task.Turns (returned : α → List Live) :
    Task Wire Unit α → World (State Wire) Unit → World (State Wire) Unit → Prop
  | .done a, first, world => ∀ clients, Changes first clients world (returned a ++ clients)
  | .act next change, first, world => (next world).Turns returned first (change world)
  | .wait w next dropped, first, world =>
      (∀ clients, Changes first clients world clients) ∧
        ∀ later, (∀ clients, Changes later clients (dropped later) clients) ∧
          ∀ refusal answer left, w.resolve refusal later = some (answer, left) →
            (next answer).Turns returned later left

/-- A suspended call does one step's work at most before it waits again. -/
def Suspension.Turns (returned : α → List Live) (rest : Suspension α) : Prop :=
  ∀ later, (∀ clients, Changes later clients (rest.dropped later) clients) ∧
    ∀ refusal task left, rest.resume refusal later = some (task, left) →
      task.Turns returned later left

/-- The calls of a pool in use do one step's work at a time. -/
structure PoolUsage.Orderly (usage : PoolUsage) : Prop where
  asking : ∀ rest ∈ usage.asking, rest.Turns acquireTerms.returned
  filling : ∀ rest, usage.filling = some rest → rest.Turns fillTerms.returned

end Defs

section Search

variable {options : PoolOptions} {now : Nat} {isOpen : Nat → Bool} {entry : Idle}

namespace Pool

theorem below_eq_true
    {limit : Option Nat}
    {span : Nat} :
    below limit span = true ↔ ∀ most, limit = some most → span < most := by
  cases limit <;> simp [below]

theorem reusable_iff :
    reusable options now isOpen entry = true ↔ Usable options now isOpen entry := by
  simp only [reusable, Bool.and_eq_true, below_eq_true]
  constructor
  · rintro ⟨⟨hyoung, hfresh⟩, hopen⟩
    exact ⟨hopen, hyoung, hfresh⟩
  · rintro ⟨hopen, hyoung, hfresh⟩
    exact ⟨⟨hyoung, hfresh⟩, hopen⟩

theorem takeIdle_cases
    (pool : Pool)
    (now : Nat)
    (isOpen : Nat → Bool) :
    (∃ newer entry older, pool.idle = newer ++ entry :: older ∧
        Usable pool.options now isOpen entry ∧
        (∀ other ∈ newer, ¬ Usable pool.options now isOpen other) ∧
        pool.takeIdle now isOpen = (some entry.live, { pool with idle := older }, newer)) ∨
      ((∀ other ∈ pool.idle, ¬ Usable pool.options now isOpen other) ∧
        pool.takeIdle now isOpen = (none, { pool with idle := [] }, pool.idle)) := by
  have hfalse (other : Idle) : reusable pool.options now isOpen other = false
      ↔ ¬ Usable pool.options now isOpen other := by
    rw [← reusable_iff, Bool.not_eq_true]
  rcases search_cases (reusable pool.options now isOpen) pool.idle with
    ⟨newer, entry, older, hidle, hentry, hnewer, hsearch⟩ | ⟨hnone, hsearch⟩
  · refine .inl ⟨newer, entry, older, hidle, reusable_iff.mp hentry, fun other hother => ?_, ?_⟩
    · exact (hfalse other).mp (hnewer other hother)
    · rw [takeIdle, hsearch]
  · refine .inr ⟨fun other hother => (hfalse other).mp (hnone other hother), ?_⟩
    rw [takeIdle, hsearch]

end Pool
end Search

section Steps

variable {world later latest : World (State Wire) Unit} {clients others : List Live} {live : Live}

namespace Ages

protected theorem refl
    (world : World (State Wire) Unit) :
    Ages world world :=
  ⟨le_rfl, rfl, le_rfl, fun _ h => h⟩

protected theorem trans
    (hfirst : Ages world later)
    (hsecond : Ages later latest) :
    Ages world latest where
  now := hfirst.now.trans hsecond.now
  options := hsecond.options.trans hfirst.options
  opened := hfirst.opened.trans hsecond.opened
  lost connection hlost := hsecond.lost connection (hfirst.lost connection hlost)

theorem of_drifts
    (hnow : world.now ≤ later.now)
    (hoptions : later.driver.pool.options = world.driver.pool.options)
    (hdrifts : world.driver.network.Drifts later.driver.network) :
    Ages world later where
  now := hnow
  options := hoptions
  opened := hdrifts.opened.ge
  lost connection hlost := ((hdrifts.line connection).lost hlost).1

theorem changePool
    {f : Pool → Pool}
    (hf : (f world.driver.pool).options = world.driver.pool.options) :
    Ages world (Postgres.changePool f world) :=
  ⟨le_rfl, hf, le_rfl, fun _ h => h⟩

theorem leave
    (connection : Nat)
    (world : World (State Wire) Unit) :
    Ages world (changeNetwork (Wire.network.leave connection) world) :=
  .of_drifts le_rfl rfl (Passes.leave connection world).wire

theorem leaveAll
    (entries : List Idle)
    (world : World (State Wire) Unit) :
    Ages world (Network.leaveAll Wire.network entries world) := by
  induction entries generalizing world with
  | nil => exact .refl world
  | cons first rest ih => exact (leave first.live.connection world).trans (ih _)

/-- A pool drops idle connections. -/
theorem drop
    {f : Pool → Pool}
    (hf : (f world.driver.pool).options = world.driver.pool.options)
    (dropped : List Idle) :
    Ages world (Network.leaveAll Wire.network dropped (Postgres.changePool f world)) :=
  (changePool hf).trans (leaveAll dropped _)

theorem opening
    (hnow : later.now = world.now)
    (hpool : later.driver.pool = world.driver.pool)
    (hline : later.driver.network.line = world.driver.network.line)
    (hopened : later.driver.network.opened = world.driver.network.opened + 1) :
    Ages world later where
  now := hnow.ge
  options := by rw [hpool]
  opened := by omega
  lost connection hlost := by simpa only [Wire.isUp, hline] using hlost

end Ages

/-- A step that lets idle connections go at most. -/
theorem Changes.letGo
    (hages : Ages world later)
    (hidle : later.driver.pool.idle.Sublist world.driver.pool.idle)
    (clients : List Live) :
    Changes world clients later clients :=
  ⟨hages, .fewer hidle (.refl clients)⟩

/-- A step that leaves the connections where they are. -/
theorem Changes.still
    (hages : Ages world later)
    (hidle : later.driver.pool.idle = world.driver.pool.idle)
    (clients : List Live) :
    Changes world clients later clients :=
  .letGo hages (hidle ▸ .refl _) clients

theorem turns_step_bind
    {β : Type}
    {returned : α → List Live}
    {f : World (State Wire) Unit → β × World (State Wire) Unit}
    {next : β → Task Wire Unit α} :
    (Task.step f >>= next).Turns returned world later
      ↔ (next (f later).1).Turns returned world (f later).2 :=
  Iff.rfl

theorem turns_opening
    (hchanges : ∀ clients, Changes world clients later clients) :
    (Task.onDrop (changePool Pool.returnPermit) Network.openLive >>= fun opened =>
      match opened with
      | .ok live => return .ok live
      | .error fault => do
          Task.change (changePool Pool.returnPermit)
          return .error (.connection fault.message)).Turns acquireTerms.returned world later := by
  refine ⟨hchanges, fun later => ⟨?_, fun refusal result left hresult => ?_⟩⟩
  · exact .still (.changePool rfl) rfl
  · obtain ⟨rfl, fault, rfl⟩ | ⟨rfl, rfl⟩ := resolve_connection hresult
    · exact .still (.changePool rfl) rfl
    · intro clients
      exact ⟨.opening rfl rfl rfl rfl, .opened rfl rfl rfl⟩

/-- Checking a connection out takes an idle one that may be reused, the newest of these, or opens
one when there is none. -/
theorem turns_acquire
    (world : World (State Wire) Unit) :
    (Network.acquire Wire.network).Turns acquireTerms.returned world world := by
  have hsettled : Ages world (Wire.network.settled world) :=
    .of_drifts le_rfl rfl (Passes.settled world).wire
  refine ⟨.still hsettled rfl, fun later => ⟨.still (.refl later) rfl, ?_⟩⟩
  intro refusal granted left hgranted
  obtain ⟨rfl, rfl⟩ | ⟨rfl, permits, -, rfl⟩ := resolve_permit hgranted
  · exact .still (.refl left) rfl
  · set left := changePool (fun pool => { pool with permits := permits }) later
    have hleft : Ages later left := .changePool rfl
    apply turns_step_bind.mpr
    obtain ⟨newer, entry, older, hsplit, husable, hnewer, htaken⟩ | ⟨hnone, htaken⟩ :=
      left.driver.pool.takeIdle_cases left.now (Wire.network.isOpen left.driver.network)
    · simp only [htaken]
      intro clients
      have hidle := congrArg Pool.idle
        (pool_leaveAll newer (changePool (fun pool => { pool with idle := older }) left))
      exact ⟨hleft.trans (.drop rfl newer), .reused hsplit husable hnewer hidle rfl⟩
    · simp only [htaken]
      refine turns_opening (.letGo (hleft.trans (.drop rfl left.driver.pool.idle)) ?_)
      rw [pool_leaveAll]
      exact List.nil_sublist _

/-- Filling the pool puts the connections that it opens among the idle ones. -/
theorem turns_openIdle
    {count : Nat}
    (hchanges : ∀ clients, Changes world clients later clients) :
    (Network.openIdle Wire.network count).Turns fillTerms.returned world later := by
  induction count generalizing world later with
  | zero => exact hchanges
  | succ count ih =>
    refine ⟨hchanges, fun later => ⟨.still (.refl later) rfl, ?_⟩⟩
    intro refusal result left hresult
    obtain ⟨rfl, fault, rfl⟩ | ⟨rfl, rfl⟩ := resolve_connection hresult
    · exact .still (.refl left) rfl
    · refine ih fun clients => ?_
      -- the message about the new connection changes neither the pool nor the wire
      set noted := (changeNetwork (fun wire => { wire with opened := wire.opened + 1 }) later).note
        "DEBUG" [("message", "opened database connection")]
      have hopened : Ages later noted := .opening rfl rfl rfl rfl
      set live : Live := ⟨later.driver.network.opened, noted.now⟩
      change Changes later clients (Network.release Wire.network live noted) clients
      rcases release_cases live noted with hgone | ⟨-, -, hkept⟩
      · rw [hgone]
        exact .still (hopened.trans (.leave _ noted)) rfl clients
      · rw [hkept]
        exact ⟨hopened.trans (.changePool rfl), .stocked rfl rfl rfl⟩

/-- A call that runs until it waits or returns does one step's work. -/
theorem turns_advance
    {returned : α → List Live}
    {task : Task Wire Unit α}
    (hturns : task.Turns returned world later) :
    match task.advance later with
    | (.inl a, left) => ∀ clients, Changes world clients left (returned a ++ clients)
    | (.inr rest, left) => (∀ clients, Changes world clients left clients) ∧
        rest.Turns returned := by
  induction task generalizing later with
  | done a => exact hturns
  | act next change ih => exact ih later hturns
  | wait w next dropped ih =>
    obtain ⟨hchanges, hlater⟩ := hturns
    refine ⟨hchanges, fun later => ⟨(hlater later).1, fun refusal task left hresume => ?_⟩⟩
    simp only [Suspension.resume, Option.map_eq_some_iff, Prod.mk.injEq] at hresume
    obtain ⟨⟨answer, left⟩, hanswer, rfl, rfl⟩ := hresume
    exact (hlater later).2 refusal answer left hanswer

/-- The connections of a pool after a step are those before it, some of them at least, and perhaps a
new one. -/
theorem Turnover.lives
    (hturnover : Turnover world clients later others) :
    (livesOf later.driver others).Subperm (livesOf world.driver clients) ∨
      (later.driver.network.opened = world.driver.network.opened + 1 ∧
        (livesOf later.driver others).Perm
          (⟨world.driver.network.opened, later.now⟩ :: livesOf world.driver clients)) := by
  cases hturnover with
  | fewer hidle hclients => exact .inl ((hidle.map _).append hclients).subperm
  | @reused newer older entry hsplit husable hnewer hidle hclients =>
    have hperm : (livesOf later.driver others).Perm
        ((entry :: older).map Idle.live ++ clients) := by
      rw [livesOf, hidle, hclients]
      exact List.perm_middle
    have hsublist : ((entry :: older).map Idle.live ++ clients).Sublist
        (livesOf world.driver clients) := by
      rw [livesOf, hsplit]
      exact ((List.sublist_append_right newer _).map _).append (.refl _)
    exact .inl (hperm.subperm.trans hsublist.subperm)
  | opened hopened hidle hclients =>
    refine .inr ⟨hopened, ?_⟩
    rw [livesOf, livesOf, hidle, hclients]
    exact List.perm_middle
  | stocked hopened hidle hclients =>
    refine .inr ⟨hopened, ?_⟩
    rw [livesOf, livesOf, hidle, hclients]
    rfl
  | released hclients hidle =>
    refine .inl (List.Perm.subperm ?_)
    rw [livesOf, livesOf, hidle]
    exact List.perm_middle.symm.trans (hclients.symm.append_left _)

/-- A client's connection is idle from now on, or let go. -/
theorem changes_checkIn
    {index : Nat}
    (hlive : clients[index]? = some live)
    (clean : Bool)
    (world : World (State Wire) Unit) :
    Changes world clients (Network.checkIn Wire.network clean live world)
      (clients.eraseIdx index) := by
  have hgone {later : World (State Wire) Unit}
      (hages : Ages world later)
      (hidle : later.driver.pool.idle = world.driver.pool.idle) :
      Changes world clients later (clients.eraseIdx index) :=
    ⟨hages, .fewer (hidle ▸ .refl _) (List.eraseIdx_sublist clients index)⟩
  cases clean with
  | false =>
    let noted := world.note "DEBUG"
      [("message", "discarding database connection in an unknown state")]
    have hnoted : Ages world noted := ⟨le_rfl, rfl, le_rfl, fun _ h => h⟩
    exact hgone ((hnoted.trans (.leave live.connection noted)).trans (.changePool rfl)) rfl
  | true =>
    change Changes world clients
      (changePool Pool.returnPermit (Network.release Wire.network live world)) _
    rcases release_cases live world with hleft | ⟨-, -, hkept⟩
    · rw [hleft]
      exact hgone ((Ages.leave live.connection world).trans (.changePool rfl)) rfl
    · rw [hkept]
      obtain ⟨hindex, rfl⟩ := List.getElem?_eq_some_iff.mp hlive
      refine ⟨.trans (.changePool rfl) (.changePool rfl), .released ?_ rfl⟩
      exact (List.getElem_cons_eraseIdx_perm hindex).symm

end Steps

namespace PoolUsage

section Runs

variable {world : World (State Wire) Unit} {usage later : PoolUsage}

theorem orderly_ask
    {task : Task Wire Unit (Except DriverError Live)}
    (hturns : task.Turns acquireTerms.returned world usage.world)
    (horderly : usage.Orderly) :
    Changes world usage.clients (usage.ask task).world (usage.ask task).clients ∧
      (usage.ask task).Orderly := by
  have hadvance := turns_advance hturns
  unfold ask
  rcases hrun : task.advance usage.world with ⟨(e | live) | rest, left⟩
  · rw [hrun] at hadvance
    exact ⟨hadvance usage.clients, horderly.asking, horderly.filling⟩
  · rw [hrun] at hadvance
    exact ⟨hadvance usage.clients, horderly.asking, horderly.filling⟩
  · rw [hrun] at hadvance
    exact ⟨hadvance.1 usage.clients, List.forall_mem_cons.mpr ⟨hadvance.2, horderly.asking⟩,
      horderly.filling⟩

theorem orderly_fill
    {task : Task Wire Unit (Except DriverError Unit)}
    (hturns : task.Turns fillTerms.returned world usage.world)
    (horderly : usage.Orderly) :
    Changes world usage.clients (usage.fill task).world (usage.fill task).clients ∧
      (usage.fill task).Orderly := by
  have hadvance := turns_advance hturns
  unfold fill
  rcases hrun : task.advance usage.world with ⟨result | rest, left⟩
  · rw [hrun] at hadvance
    exact ⟨hadvance usage.clients, horderly.asking, by simp⟩
  · rw [hrun] at hadvance
    refine ⟨hadvance.1 usage.clients, horderly.asking, fun other hother => ?_⟩
    obtain rfl := Option.some.inj hother
    exact hadvance.2

/-- Whatever happens to a pool in use, it is one step's work. -/
theorem Orderly.next
    {action : PoolAction}
    (horderly : usage.Orderly)
    (hnext : usage.next action = some later) :
    Changes usage.world usage.clients later.world later.clients ∧ later.Orderly := by
  have hothers (index : Nat) : ∀ rest ∈ usage.asking.eraseIdx index,
      rest.Turns acquireTerms.returned := fun rest hrest =>
    horderly.asking rest (List.mem_of_mem_eraseIdx hrest)
  cases steps_of_next hnext with
  | asks hfilled => exact orderly_ask (turns_acquire usage.world) horderly
  | @fills rest refusal task left hfilling hresume =>
    have hturns := (horderly.filling rest hfilling usage.world).2 refusal task left hresume
    have hresumed : { usage with world := left }.Orderly := ⟨horderly.asking, horderly.filling⟩
    exact orderly_fill hturns hresumed
  | @polls index rest refusal task left hrest hresume =>
    have hturns := (horderly.asking rest (List.mem_of_getElem? hrest) usage.world).2 refusal
      task left hresume
    have hresumed : { usage with world := left, asking := usage.asking.eraseIdx index }.Orderly :=
      ⟨hothers index, horderly.filling⟩
    exact orderly_ask hturns hresumed
  | @drops index rest hrest =>
    have hdropped := (horderly.asking rest (List.mem_of_getElem? hrest) usage.world).1
    exact ⟨hdropped usage.clients, hothers index, horderly.filling⟩
  | releases hlive clean =>
    exact ⟨changes_checkIn hlive clean usage.world, horderly.asking, horderly.filling⟩
  | moves connection move =>
    have hages : Ages usage.world (changeNetwork (·.move (connection, move)) usage.world) :=
      .of_drifts le_rfl rfl (.move _ _)
    exact ⟨.still hages rfl usage.clients, horderly.asking, horderly.filling⟩
  | passes ms =>
    have hages : Ages usage.world { usage.world with now := usage.world.now + ms } :=
      .of_drifts (Nat.le_add_right _ ms) rfl (.refl _)
    exact ⟨.still hages rfl usage.clients, horderly.asking, horderly.filling⟩
  | closes =>
    refine ⟨.letGo (.drop rfl _) ?_ usage.clients, horderly.asking, horderly.filling⟩
    rw [pool_leaveAll]
    exact List.nil_sublist _

end Runs
end PoolUsage
end Postgres
end QueryBatch
