import QueryBatch.Proofs.Postgres.Permits

/-!
# Permits are conserved

Callers check connections out of a pool and put them back, clean or not. They wait for permits and
for new connections, and may be dropped while they wait. Connections are lost, time passes, and at
last the pool is closed. `PoolUsage.next` is one such step, `PoolUsage.after` any number of them.

`PoolUsage.Balanced` is what every step keeps, and `permits_are_conserved` is what it comes to.
-/

namespace QueryBatch
namespace Postgres

variable {α : Type}

structure PoolUsage where
  world : World (State Wire) Unit
  /-- The pool is still filled, and nobody can use it. -/
  filling : Option (Suspension (Except DriverError Unit)) := none
  /-- The calls that wait for a permit or a new connection. -/
  asking : List (Suspension (Except DriverError Live)) := []
  clients : List Live := []

inductive PoolAction
  | acquire
  /-- Go on with filling the pool, if what it waits for is there. -/
  | fill (refusal : Option Fault)
  /-- Go on with a call, if what it waits for is there; a new connection may be refused. -/
  | poll (index : Nat) (refusal : Option Fault)
  | drop (index : Nat)
  | release (index : Nat) (clean : Bool)
  | move (connection : Nat) (move : Line.Move)
  | pass (ms : Nat)
  | close

namespace PoolUsage

section Defs

def fill (task : Task Wire Unit (Except DriverError Unit)) (usage : PoolUsage) : PoolUsage :=
  match task.advance usage.world with
  | (.inl _, world) => { usage with world := world, filling := none }
  | (.inr rest, world) => { usage with world := world, filling := some rest }

def ask (task : Task Wire Unit (Except DriverError Live)) (usage : PoolUsage) : PoolUsage :=
  match task.advance usage.world with
  | (.inl (.ok live), world) => { usage with world := world, clients := live :: usage.clients }
  | (.inl (.error _), world) => { usage with world := world }
  | (.inr rest, world) => { usage with world := world, asking := rest :: usage.asking }

/-- A pool that opens its connections when they are needed. -/
def onDemand (options : PoolOptions) (future : List Turn) : PoolUsage where
  world := (Usage.start options future).world

/-- A pool that opens some connections in advance. -/
def inAdvance (options : PoolOptions) (future : List Turn) : PoolUsage :=
  (onDemand options future).fill Wire.network.fillTask

def next (usage : PoolUsage) : PoolAction → Option PoolUsage
  | .acquire =>
      match usage.filling with
      | some _ => none
      | none => some (usage.ask Wire.network.acquire)
  | .fill refusal =>
      match usage.filling with
      | none => none
      | some rest =>
          (rest.resume refusal usage.world).map fun ready =>
            { usage with world := ready.2 }.fill ready.1
  | .poll index refusal =>
      match usage.asking[index]? with
      | none => none
      | some rest =>
          (rest.resume refusal usage.world).map fun ready =>
            { usage with world := ready.2, asking := usage.asking.eraseIdx index }.ask ready.1
  | .drop index =>
      match usage.asking[index]? with
      | none => none
      | some rest =>
          some { usage with
            world := rest.dropped usage.world
            asking := usage.asking.eraseIdx index }
  | .release index clean =>
      match usage.clients[index]? with
      | none => none
      | some live =>
          some { usage with
            world := Network.checkIn Wire.network clean live usage.world
            clients := usage.clients.eraseIdx index }
  | .move connection move =>
      some { usage with world := changeNetwork (·.move (connection, move)) usage.world }
  | .pass ms => some { usage with world := { usage.world with now := usage.world.now + ms } }
  | .close => some { usage with world := Wire.network.closed usage.world }

def after (usage : PoolUsage) : List PoolAction → Option PoolUsage
  | [] => some usage
  | action :: rest =>
      match usage.next action with
      | none => none
      | some later => later.after rest

/-- What one action can come to. -/
inductive Steps (usage : PoolUsage) : PoolUsage → Prop
  | asks
      (filled : usage.filling = none) :
      Steps usage (usage.ask Wire.network.acquire)
  | fills
      {rest : Suspension (Except DriverError Unit)}
      {refusal : Option Fault}
      {task : Task Wire Unit (Except DriverError Unit)}
      {left : World (State Wire) Unit}
      (filling : usage.filling = some rest)
      (resume : rest.resume refusal usage.world = some (task, left)) :
      Steps usage ({ usage with world := left }.fill task)
  | polls
      {index : Nat}
      {rest : Suspension (Except DriverError Live)}
      {refusal : Option Fault}
      {task : Task Wire Unit (Except DriverError Live)}
      {left : World (State Wire) Unit}
      (asking : usage.asking[index]? = some rest)
      (resume : rest.resume refusal usage.world = some (task, left)) :
      Steps usage
        ({ usage with world := left, asking := usage.asking.eraseIdx index }.ask task)
  | drops
      {index : Nat}
      {rest : Suspension (Except DriverError Live)}
      (asking : usage.asking[index]? = some rest) :
      Steps usage { usage with
        world := rest.dropped usage.world
        asking := usage.asking.eraseIdx index }
  | releases
      {index : Nat}
      {live : Live}
      (clients : usage.clients[index]? = some live)
      (clean : Bool) :
      Steps usage { usage with
        world := Network.checkIn Wire.network clean live usage.world
        clients := usage.clients.eraseIdx index }
  | moves
      (connection : Nat)
      (move : Line.Move) :
      Steps usage
        { usage with world := changeNetwork (·.move (connection, move)) usage.world }
  | passes
      (ms : Nat) :
      Steps usage { usage with world := { usage.world with now := usage.world.now + ms } }
  | closes :
      Steps usage { usage with world := Wire.network.closed usage.world }

def waiting (usage : PoolUsage) : Nat := usage.asking.countP fun rest => rest.wait = .permit

def opening (usage : PoolUsage) : Nat := usage.asking.countP fun rest => rest.wait = .connection

/-- The permits that are granted to calls that wait. -/
def granted (usage : PoolUsage) : Nat := min usage.world.driver.pool.permits usage.waiting

/-- The permits that nobody has or was granted. -/
def available (usage : PoolUsage) : Nat := usage.world.driver.pool.permits - usage.granted

/-- A pool whose permits are accounted for. While it is filled, some are in reserve. -/
structure Balanced (total : Nat) (usage : PoolUsage) (reserve : Nat) : Prop where
  balance : Balance total reserve usage.world.driver usage.opening usage.clients
  asking : ∀ rest ∈ usage.asking, rest.Pays total acquireTerms 0 rest.wait.cost
  filling : ∀ rest, usage.filling = some rest →
    1 ≤ reserve ∧ usage.asking = [] ∧ rest.Pays total fillTerms reserve 0
  filled : usage.filling = none → reserve = 0

end Defs

section Steps

variable {total reserve opening : Nat} {usage later : PoolUsage} {index : Nat}

/-- A call that runs until it waits or returns keeps the balance. -/
theorem pays_advance
    {terms : Terms α}
    {task : Task Wire Unit α}
    {world : World (State Wire) Unit}
    {clients : List Live}
    (hpays : task.Pays total terms world opening clients) :
    match task.advance world with
    | (.inl a, left) => Balance total 0 left.driver opening (terms.returned a ++ clients)
    | (.inr rest, left) => ∃ reserve held, terms.during rest.wait reserve held ∧
        Balance total reserve left.driver (held + opening) clients ∧
        rest.Pays total terms reserve held := by
  induction task generalizing world with
  | done a => exact hpays
  | act next change ih => exact ih world hpays
  | wait w next dropped ih =>
    obtain ⟨reserve, held, hduring, hbalance, hlater⟩ := hpays
    refine ⟨reserve, held, hduring, hbalance, fun later opening clients hlast => ?_⟩
    obtain ⟨hdropped, hnext⟩ := hlater later opening clients hlast
    refine ⟨hdropped, fun refusal task left hresume => ?_⟩
    simp only [Suspension.resume, Option.map_eq_some_iff, Prod.mk.injEq] at hresume
    obtain ⟨⟨answer, world⟩, hanswer, rfl, rfl⟩ := hresume
    exact hnext refusal answer world hanswer

theorem countP_connection
    (rest : Suspension (Except DriverError Live))
    (others : List (Suspension (Except DriverError Live))) :
    (rest :: others).countP (fun rest => rest.wait = .connection)
      = rest.wait.cost + others.countP fun rest => rest.wait = .connection := by
  rw [List.countP_cons, Wait.cost, Nat.add_comm]
  simp

/-- The balance of a pool that nobody fills. -/
theorem balanced_of_filled
    (hbalance : Balance total 0 usage.world.driver usage.opening usage.clients)
    (hasking : ∀ rest ∈ usage.asking, rest.Pays total acquireTerms 0 rest.wait.cost)
    (hfilling : usage.filling = none) :
    usage.Balanced total 0 where
  balance := hbalance
  asking := hasking
  filling rest hrest := by simp [hfilling] at hrest
  filled _ := rfl

theorem balanced_ask
    {task : Task Wire Unit (Except DriverError Live)}
    (hpays : task.Pays total acquireTerms usage.world usage.opening usage.clients)
    (hasking : ∀ rest ∈ usage.asking, rest.Pays total acquireTerms 0 rest.wait.cost)
    (hfilling : usage.filling = none) :
    (usage.ask task).Balanced total 0 := by
  have hadvance := pays_advance hpays
  unfold ask
  rcases hrun : task.advance usage.world with ⟨result | rest, left⟩
  · rw [hrun] at hadvance
    cases result with
    | error e => exact balanced_of_filled hadvance hasking hfilling
    | ok live => exact balanced_of_filled hadvance hasking hfilling
  · rw [hrun] at hadvance
    obtain ⟨reserve, held, ⟨rfl, rfl⟩, hbalance, hrest⟩ := hadvance
    refine balanced_of_filled ?_ ?_ hfilling
    · have hopening := countP_connection rest usage.asking
      unfold opening
      rw [hopening]
      exact hbalance
    · intro other hother
      rcases List.mem_cons.mp hother with rfl | hother
      · exact hrest
      · exact hasking other hother

theorem balanced_fill
    {task : Task Wire Unit (Except DriverError Unit)}
    (hpays : task.Pays total fillTerms usage.world usage.opening usage.clients)
    (hasking : usage.asking = []) :
    ∃ reserve, (usage.fill task).Balanced total reserve := by
  have hadvance := pays_advance hpays
  have hnobody : ∀ rest ∈ usage.asking, rest.Pays total acquireTerms 0 rest.wait.cost := by
    simp [hasking]
  unfold fill
  rcases hrun : task.advance usage.world with ⟨result | rest, left⟩
  · rw [hrun] at hadvance
    exact ⟨0, balanced_of_filled hadvance hnobody rfl⟩
  · rw [hrun] at hadvance
    obtain ⟨reserve, held, ⟨hreserve, rfl⟩, hbalance, hrest⟩ := hadvance
    rw [Nat.zero_add] at hbalance
    refine ⟨reserve, hbalance, hnobody, fun other hother => ?_, by simp⟩
    obtain rfl := Option.some.inj hother
    exact ⟨hreserve, hasking, hrest⟩

/-- One of the calls that wait, apart from the others. -/
theorem Balanced.takeAsking
    {rest : Suspension (Except DriverError Live)}
    (hbalanced : usage.Balanced total reserve)
    (hrest : usage.asking[index]? = some rest) :
    reserve = 0 ∧ usage.filling = none ∧ rest.Pays total acquireTerms 0 rest.wait.cost ∧
      Balance total 0 usage.world.driver
        (rest.wait.cost
          + (usage.asking.eraseIdx index).countP fun rest => rest.wait = .connection)
        usage.clients ∧
      ∀ other ∈ usage.asking.eraseIdx index,
        other.Pays total acquireTerms 0 other.wait.cost := by
  obtain ⟨hindex, rfl⟩ := List.getElem?_eq_some_iff.mp hrest
  have hperm := List.getElem_cons_eraseIdx_perm hindex
  have hfilling : usage.filling = none := by
    cases hfilling : usage.filling with
    | none => rfl
    | some filling =>
      obtain ⟨-, hnobody, -⟩ := hbalanced.filling filling hfilling
      simp [hnobody] at hindex
  obtain rfl := hbalanced.filled hfilling
  refine ⟨rfl, hfilling, hbalanced.asking _ (List.getElem_mem hindex), ?_, fun other hother => ?_⟩
  · rw [← countP_connection, hperm.countP_eq]
    exact hbalanced.balance
  · exact hbalanced.asking other (List.mem_of_mem_eraseIdx hother)

/-- Nobody but the network and the clock does anything. -/
theorem Balanced.inWorld
    (hbalanced : usage.Balanced total reserve)
    {world : World (State Wire) Unit}
    (hbalance : Balance total reserve world.driver usage.opening usage.clients) :
    { usage with world := world }.Balanced total reserve where
  balance := hbalance
  asking := hbalanced.asking
  filling := hbalanced.filling
  filled := hbalanced.filled

theorem Balanced.release
    (hbalanced : usage.Balanced total reserve)
    {live : Live}
    (hlive : usage.clients[index]? = some live)
    (clean : Bool) :
    { usage with
      world := Network.checkIn Wire.network clean live usage.world
      clients := usage.clients.eraseIdx index }.Balanced total reserve := by
  obtain ⟨hindex, rfl⟩ := List.getElem?_eq_some_iff.mp hlive
  have hperm := List.getElem_cons_eraseIdx_perm hindex
  have hbalance := (hbalanced.balance.perm hperm.symm).checkIn clean
  exact ⟨hbalance, hbalanced.asking, hbalanced.filling, hbalanced.filled⟩

theorem steps_of_next
    {action : PoolAction}
    (hnext : usage.next action = some later) :
    usage.Steps later := by
  cases action with
  | acquire =>
    cases hfilling : usage.filling with
    | some rest => simp [PoolUsage.next, hfilling] at hnext
    | none =>
      obtain rfl : usage.ask Wire.network.acquire = later := by
        simpa [PoolUsage.next, hfilling] using hnext
      exact .asks hfilling
  | fill refusal =>
    cases hfilling : usage.filling with
    | none => simp [PoolUsage.next, hfilling] at hnext
    | some rest =>
      simp only [PoolUsage.next, hfilling, Option.map_eq_some_iff] at hnext
      obtain ⟨⟨task, left⟩, hresume, rfl⟩ := hnext
      exact .fills hfilling hresume
  | poll index refusal =>
    cases hrest : usage.asking[index]? with
    | none => simp [PoolUsage.next, hrest] at hnext
    | some rest =>
      simp only [PoolUsage.next, hrest, Option.map_eq_some_iff] at hnext
      obtain ⟨⟨task, left⟩, hresume, rfl⟩ := hnext
      exact .polls hrest hresume
  | drop index =>
    cases hrest : usage.asking[index]? with
    | none => simp [PoolUsage.next, hrest] at hnext
    | some rest =>
      simp only [PoolUsage.next, hrest, Option.some.injEq] at hnext
      subst hnext
      exact .drops hrest
  | release index clean =>
    cases hlive : usage.clients[index]? with
    | none => simp [PoolUsage.next, hlive] at hnext
    | some live =>
      simp only [PoolUsage.next, hlive, Option.some.injEq] at hnext
      subst hnext
      exact .releases hlive clean
  | move connection move =>
    obtain rfl := Option.some.inj hnext
    exact .moves connection move
  | pass ms =>
    obtain rfl := Option.some.inj hnext
    exact .passes ms
  | close =>
    obtain rfl := Option.some.inj hnext
    exact .closes

/-- Whatever happens to a pool, its permits stay accounted for. -/
theorem Balanced.next
    {action : PoolAction}
    (hbalanced : usage.Balanced total reserve)
    (hnext : usage.next action = some later) :
    ∃ reserve, later.Balanced total reserve := by
  cases steps_of_next hnext with
  | asks hfilling =>
    obtain rfl := hbalanced.filled hfilling
    exact ⟨0, balanced_ask (pays_acquire hbalanced.balance) hbalanced.asking hfilling⟩
  | @fills rest refusal task left hfilling hresume =>
    obtain ⟨-, hnobody, hrest⟩ := hbalanced.filling rest hfilling
    have hbalance : Balance total reserve usage.world.driver (0 + usage.opening)
        usage.clients := by
      rw [Nat.zero_add]
      exact hbalanced.balance
    exact balanced_fill ((hrest _ _ _ hbalance).2 refusal task left hresume) hnobody
  | @polls index rest refusal task left hrest hresume =>
    obtain ⟨rfl, hfilling, hpays, hbalance, hothers⟩ := hbalanced.takeAsking hrest
    have htask := (hpays _ _ _ hbalance).2 refusal task left hresume
    exact ⟨0, balanced_ask htask hothers hfilling⟩
  | drops hrest =>
    obtain ⟨rfl, hfilling, hpays, hbalance, hothers⟩ := hbalanced.takeAsking hrest
    exact ⟨0, balanced_of_filled (hpays _ _ _ hbalance).1 hothers hfilling⟩
  | releases hlive clean => exact ⟨reserve, hbalanced.release hlive clean⟩
  | moves connection move =>
    have hmoved : Passes usage.world
        (changeNetwork (·.move (connection, move)) usage.world) := .changeNetwork (.move _ _)
    exact ⟨reserve, hbalanced.inWorld (hbalanced.balance.keep rfl hmoved.wire.opened.ge)⟩
  | passes ms => exact ⟨reserve, hbalanced.inWorld hbalanced.balance⟩
  | closes => exact ⟨reserve, hbalanced.inWorld hbalanced.balance.closed⟩

theorem Balanced.after
    {actions : List PoolAction}
    (hbalanced : usage.Balanced total reserve)
    (hafter : usage.after actions = some later) :
    ∃ reserve, later.Balanced total reserve := by
  induction actions generalizing usage reserve with
  | nil =>
    obtain rfl := Option.some.inj hafter
    exact ⟨reserve, hbalanced⟩
  | cons action rest ih =>
    unfold PoolUsage.after at hafter
    cases hnext : usage.next action with
    | none => simp [hnext] at hafter
    | some between =>
      simp only [hnext] at hafter
      obtain ⟨reserve, hbetween⟩ := hbalanced.next hnext
      exact ih hbetween hafter

end Steps

section Result

variable {options : PoolOptions}

theorem balance_start
    (options : PoolOptions)
    (future : List Turn) :
    Balance options.maxConnections options.maxConnections
      (Usage.start options future).world.driver 0 [] where
  permits := rfl
  room := by simp [Usage.start, State.start, Pool.new]
  distinct := List.nodup_nil
  opened connection hmem := by simp [inUse, Usage.start, State.start, Pool.new] at hmem

theorem balanced_onDemand
    (options : PoolOptions)
    (future : List Turn) :
    (onDemand options future).Balanced options.maxConnections 0 := by
  have hbalance := (balance_start options future).weaken (Nat.zero_le _)
  exact balanced_of_filled hbalance (by simp [onDemand]) rfl

theorem balanced_inAdvance
    (hmax : 1 ≤ options.maxConnections)
    (hmin : options.minConnections ≤ options.maxConnections)
    (future : List Turn) :
    ∃ reserve, (inAdvance options future).Balanced options.maxConnections reserve := by
  have hroom : max options.minConnections 1 ≤ options.maxConnections := max_le hmin hmax
  have hpays : (Network.fillTask Wire.network).Pays options.maxConnections fillTerms
      (onDemand options future).world 0 [] :=
    pays_openIdle ((balance_start options future).weaken hroom)
  exact balanced_fill hpays rfl

/-- Of a pool that may keep some connections open, whether it opens them in advance or not: whatever
its callers do and whatever is refused, lost or dropped, all permits are available, granted, or used
by calls that open a connection and by connections that are checked out. Idle connections and those
together are never more than the permits, and no connection is had twice. -/
theorem permits_are_conserved
    (hmax : 1 ≤ options.maxConnections)
    (hmin : options.minConnections ≤ options.maxConnections)
    {future : List Turn}
    {start usage : PoolUsage}
    (hstart : start = onDemand options future ∨ start = inAdvance options future)
    {actions : List PoolAction}
    (hafter : start.after actions = some usage) :
    usage.available + usage.granted + usage.opening + usage.clients.length
        = options.maxConnections ∧
      usage.world.driver.pool.idle.length + usage.clients.length + usage.opening
        + usage.filling.toList.length ≤ options.maxConnections ∧
      (usage.world.driver.pool.idle.map (fun entry => entry.live.connection)
        ++ usage.clients.map Live.connection).Nodup := by
  obtain ⟨first, hfirst⟩ : ∃ reserve, start.Balanced options.maxConnections reserve := by
    rcases hstart with rfl | rfl
    · exact ⟨0, balanced_onDemand options future⟩
    · exact balanced_inAdvance hmax hmin future
  obtain ⟨reserve, hbalanced⟩ := hfirst.after hafter
  have hpermits := hbalanced.balance.permits
  have hroom := hbalanced.balance.room
  have hgranted : usage.granted ≤ usage.world.driver.pool.permits := min_le_left _ _
  have hfilling : usage.filling.toList.length ≤ reserve := by
    cases hfilling : usage.filling with
    | none => exact Nat.zero_le _
    | some rest => exact (hbalanced.filling rest hfilling).1
  refine ⟨?_, ?_, hbalanced.balance.distinct⟩
  · unfold available
    omega
  · omega

/-- One connection is opened in advance and checked out. A second call is dropped while it opens a
connection, and a third one is refused its own. The first connection is put back, and reused by a
fourth call while a fifth opens a connection; it is put back again while a sixth waits. -/
def rushHour : List PoolAction :=
  [.fill none, .acquire, .poll 0 none, .acquire, .poll 0 none, .acquire, .drop 1, .poll 0 none,
    .poll 0 (some .unreachable), .release 0 true, .acquire, .poll 0 none, .acquire, .poll 0 none,
    .acquire, .release 0 true]

theorem permits_are_conserved_after_rushHour :
    ∃ usage, (inAdvance ⟨2, 1, none, none⟩ []).after rushHour = some usage ∧
      (usage.available, usage.granted, usage.opening, usage.clients.length) = (0, 1, 1, 0) ∧
      usage.available + usage.granted + usage.opening + usage.clients.length = 2 ∧
      usage.world.driver.pool.idle.length + usage.clients.length + usage.opening
        + usage.filling.toList.length ≤ 2 ∧
      (usage.world.driver.pool.idle.map (fun entry => entry.live.connection)
        ++ usage.clients.map Live.connection).Nodup := by
  obtain ⟨usage, hafter⟩ : ∃ usage, (inAdvance ⟨2, 1, none, none⟩ []).after rushHour = some usage :=
    Option.isSome_iff_exists.mp (by rfl)
  have hseen : ((inAdvance ⟨2, 1, none, none⟩ []).after rushHour).map (fun usage =>
      (usage.available, usage.granted, usage.opening, usage.clients.length))
      = some (0, 1, 1, 0) := by
    rfl
  rw [hafter, Option.map_some, Option.some.injEq] at hseen
  exact ⟨usage, hafter, hseen, permits_are_conserved (by decide) (by decide) (.inr rfl) hafter⟩

end Result
end PoolUsage
end Postgres
end QueryBatch
