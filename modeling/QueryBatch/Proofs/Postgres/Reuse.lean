import QueryBatch.Proofs.Postgres.Turnover

/-!
# Which idle connections are reused

A pool notes when its connections were opened and released. `PoolUsage.trace` keeps the states of a
run, the last first, and `Remembers` is what every step keeps of them: the times that the pool has
noted are those of the run, and its idle connections lie in the order of their releases.

So a connection may be reused by what the pool has noted exactly if it may by what has happened to
it (`Remembers.usable_iff`), and `newest_fit_connection_is_reused` is what this comes to.
-/

namespace QueryBatch
namespace Postgres
namespace PoolUsage

section Defs

def now (usage : PoolUsage) : Nat := usage.world.now

def isUp (usage : PoolUsage) (connection : Nat) : Bool :=
  usage.world.driver.network.isUp connection

def idleConnections (usage : PoolUsage) : List Nat :=
  usage.world.driver.pool.idle.map fun entry => entry.live.connection

/-- The states of a run, the last first, when it goes on from some earlier ones. -/
def trace (past : List PoolUsage) (usage : PoolUsage) : List PoolAction → Option (List PoolUsage)
  | [] => some (usage :: past)
  | action :: rest =>
      match usage.next action with
      | none => none
      | some later => trace (usage :: past) later rest

/-- The states of a run since a connection was opened. -/
def openFor (connection : Nat) (states : List PoolUsage) : List PoolUsage :=
  states.takeWhile fun usage => connection < usage.world.driver.network.opened

/-- The states of a run since a connection was released, if it is idle. -/
def idleFor (connection : Nat) (states : List PoolUsage) : List PoolUsage :=
  states.takeWhile fun usage => connection ∈ usage.idleConnections

/-- By the states of a run, a connection was never closed since it was opened, and neither its age
nor the time since it was released has come to its limit. -/
structure Fit (options : PoolOptions) (now : Nat) (states : List PoolUsage) (connection : Nat) :
    Prop where
  intact : ∀ usage ∈ openFor connection states, usage.isUp connection = true
  young : ∀ limit, options.maxLifetime = some limit →
    ∀ usage ∈ openFor connection states, now - usage.now < limit
  fresh : ∀ limit, options.idleTimeout = some limit →
    ∀ usage ∈ idleFor connection states, now - usage.now < limit

/-- The first of the times of some states. -/
def StartsAt (states : List PoolUsage) (time : Nat) : Prop :=
  IsLeast {time | ∃ usage ∈ states, usage.now = time} time

/-- What a pool has noted of its connections is what happened to them. -/
structure Remembers (options : PoolOptions) (usage : PoolUsage) (past : List PoolUsage) : Prop where
  options : usage.world.driver.pool.options = options
  lost : ∀ earlier ∈ past, ∀ connection,
    earlier.isUp connection = false → usage.isUp connection = false
  distinct : ((livesOf usage.world.driver usage.clients).map Live.connection).Nodup
  opened : ∀ live ∈ livesOf usage.world.driver usage.clients,
    StartsAt (openFor live.connection (usage :: past)) live.opened
  idle : ∀ entry ∈ usage.world.driver.pool.idle,
    StartsAt (idleFor entry.live.connection (usage :: past)) entry.since
  order : usage.world.driver.pool.idle.Pairwise fun newer older =>
    (idleFor newer.live.connection (usage :: past)).length
      < (idleFor older.live.connection (usage :: past)).length

end Defs

section History

variable {options : PoolOptions} {usage later : PoolUsage} {past : List PoolUsage}
variable {connection time : Nat}

theorem StartsAt.cons
    {wanted : PoolUsage → Bool}
    (hstarts : StartsAt ((usage :: past).takeWhile wanted) time)
    (hwanted : wanted later = true)
    (hnow : usage.now ≤ later.now) :
    StartsAt ((later :: usage :: past).takeWhile wanted) time := by
  obtain ⟨⟨first, hfirst, htime⟩, hleast⟩ := hstarts
  have husage : wanted usage = true := by
    by_contra hnot
    simp [List.takeWhile_cons_of_neg hnot] at hfirst
  rw [List.takeWhile_cons_of_pos hwanted]
  refine ⟨⟨first, List.mem_cons_of_mem _ hfirst, htime⟩, ?_⟩
  rintro _ ⟨other, hother, rfl⟩
  rcases List.mem_cons.mp hother with rfl | hother
  · have hle : time ≤ usage.now := hleast ⟨usage, by simp [husage], rfl⟩
    exact hle.trans hnow
  · exact hleast ⟨other, hother, rfl⟩

theorem startsAt_now
    {wanted : PoolUsage → Bool}
    (hwanted : wanted later = true)
    (hnot : wanted usage = false) :
    StartsAt ((later :: usage :: past).takeWhile wanted) later.now := by
  rw [List.takeWhile_cons_of_pos hwanted, List.takeWhile_cons_of_neg (by simp [hnot])]
  exact ⟨⟨later, by simp, rfl⟩, by simp [lowerBounds]⟩

theorem idleFor_cons
    (hidle : connection ∈ usage.idleConnections) :
    idleFor connection (usage :: past) = usage :: idleFor connection past :=
  List.takeWhile_cons_of_pos (by simpa using hidle)

theorem mem_idleConnections
    {entry : Idle}
    (hentry : entry ∈ usage.world.driver.pool.idle) :
    entry.live.connection ∈ usage.idleConnections :=
  List.mem_map_of_mem hentry

theorem Remembers.below
    {live : Live}
    (hremembers : Remembers options usage past)
    (hlive : live ∈ livesOf usage.world.driver usage.clients) :
    live.connection < usage.world.driver.network.opened := by
  obtain ⟨⟨first, hfirst, -⟩, -⟩ := hremembers.opened live hlive
  by_contra hnot
  simp [openFor, hnot] at hfirst

/-- A connection is either idle or with a client. -/
theorem Remembers.not_idle
    {live : Live}
    (hremembers : Remembers options usage past)
    (hlive : live ∈ usage.clients) :
    live.connection ∉ usage.idleConnections := by
  have hdistinct := hremembers.distinct
  rw [livesOf, List.map_append, List.nodup_append', List.map_map] at hdistinct
  exact fun hmem => hdistinct.2.2 hmem (List.mem_map_of_mem hlive)

/-- The number of the next connection is not in use. -/
theorem Remembers.opened_not_idle
    (hremembers : Remembers options usage past) :
    usage.world.driver.network.opened ∉ usage.idleConnections := by
  intro hmem
  obtain ⟨entry, hentry, hconnection⟩ := List.mem_map.mp hmem
  have hbelow := hremembers.below (List.mem_append_left _ (List.mem_map_of_mem hentry))
  exact absurd hbelow (hconnection ▸ lt_irrefl _)

/-- Every connection of a pool after a step was there before, or has just been opened. -/
theorem mem_lives_next
    {live : Live}
    (hchanges : Changes usage.world usage.clients later.world later.clients)
    (hlive : live ∈ livesOf later.world.driver later.clients) :
    live ∈ livesOf usage.world.driver usage.clients ∨
      (live = ⟨usage.world.driver.network.opened, later.now⟩ ∧
        usage.world.driver.network.opened < later.world.driver.network.opened) := by
  rcases hchanges.turnover.lives with hsubperm | ⟨hopened, hperm⟩
  · exact .inl (hsubperm.subset hlive)
  · rcases List.mem_cons.mp (hperm.mem_iff.mp hlive) with hnew | hold
    · exact .inr ⟨hnew, by omega⟩
    · exact .inl hold

theorem Remembers.distinct_next
    (hremembers : Remembers options usage past)
    (hchanges : Changes usage.world usage.clients later.world later.clients) :
    ((livesOf later.world.driver later.clients).map Live.connection).Nodup := by
  rcases hchanges.turnover.lives with ⟨between, hperm, hsublist⟩ | ⟨-, hperm⟩
  · have hbetween := hremembers.distinct.sublist (hsublist.map Live.connection)
    exact (hperm.map Live.connection).nodup_iff.mp hbetween
  · rw [(hperm.map Live.connection).nodup_iff, List.map_cons, List.nodup_cons]
    refine ⟨fun hmem => ?_, hremembers.distinct⟩
    obtain ⟨live, hlive, hconnection⟩ := List.mem_map.mp hmem
    exact absurd (hremembers.below hlive) (hconnection ▸ lt_irrefl _)

/-- The idle connections after a step are some of those before it, or all of them and one that was
not idle. -/
theorem Remembers.idle_cases
    (hremembers : Remembers options usage past)
    (hchanges : Changes usage.world usage.clients later.world later.clients) :
    later.world.driver.pool.idle.Sublist usage.world.driver.pool.idle ∨
      ∃ live, later.world.driver.pool.idle
          = ⟨live, later.now⟩ :: usage.world.driver.pool.idle ∧
        live.connection ∉ usage.idleConnections := by
  cases hchanges.turnover with
  | fewer hidle hclients => exact .inl hidle
  | reused hsplit husable hnewer hidle hclients =>
    rw [hidle, hsplit]
    exact .inl ((List.sublist_cons_self _ _).trans (List.sublist_append_right _ _))
  | opened hopened hidle hclients => exact .inl (hidle ▸ .refl _)
  | stocked hopened hidle hclients =>
    exact .inr ⟨_, hidle, hremembers.opened_not_idle⟩
  | @released live hclients hidle =>
    exact .inr ⟨live, hidle, hremembers.not_idle (hclients.mem_iff.mpr List.mem_cons_self)⟩

/-- A connection that stays idle was released as long ago as is noted, one step longer than
before. -/
theorem Remembers.stays
    {entry : Idle}
    (hremembers : Remembers options usage past)
    (hnow : usage.now ≤ later.now)
    (hbefore : entry ∈ usage.world.driver.pool.idle)
    (hafter : entry ∈ later.world.driver.pool.idle) :
    StartsAt (idleFor entry.live.connection (later :: usage :: past)) entry.since ∧
      (idleFor entry.live.connection (later :: usage :: past)).length
        = (idleFor entry.live.connection (usage :: past)).length + 1 := by
  have hidle := mem_idleConnections hafter
  refine ⟨(hremembers.idle entry hbefore).cons (by simpa using hidle) hnow, ?_⟩
  rw [idleFor_cons hidle, List.length_cons]

theorem Remembers.idle_next
    (hremembers : Remembers options usage past)
    (hchanges : Changes usage.world usage.clients later.world later.clients) :
    ∀ entry ∈ later.world.driver.pool.idle,
      StartsAt (idleFor entry.live.connection (later :: usage :: past)) entry.since := by
  intro entry hentry
  have hnow := hchanges.ages.now
  rcases hremembers.idle_cases hchanges with hsublist | ⟨live, hidle, hnew⟩
  · exact (hremembers.stays hnow (hsublist.subset hentry) hentry).1
  · have hmem := hentry
    rw [hidle] at hmem
    rcases List.mem_cons.mp hmem with rfl | hold
    · exact startsAt_now (by simpa using mem_idleConnections hentry) (by simpa using hnew)
    · exact (hremembers.stays hnow hold hentry).1

theorem Remembers.order_next
    (hremembers : Remembers options usage past)
    (hchanges : Changes usage.world usage.clients later.world later.clients) :
    later.world.driver.pool.idle.Pairwise fun newer older =>
      (idleFor newer.live.connection (later :: usage :: past)).length
        < (idleFor older.live.connection (later :: usage :: past)).length := by
  have hlonger {entry : Idle}
      (hbefore : entry ∈ usage.world.driver.pool.idle)
      (hafter : entry ∈ later.world.driver.pool.idle) :=
    (hremembers.stays hchanges.ages.now hbefore hafter).2
  rcases hremembers.idle_cases hchanges with hsublist | ⟨live, hidle, hnew⟩
  · refine (hremembers.order.sublist hsublist).imp_of_mem fun hnewer holder hlt => ?_
    rw [hlonger (hsublist.subset hnewer) hnewer, hlonger (hsublist.subset holder) holder]
    omega
  · have hafter {entry : Idle} (hentry : entry ∈ usage.world.driver.pool.idle) :
        entry ∈ later.world.driver.pool.idle := hidle ▸ List.mem_cons_of_mem _ hentry
    have hreleased : live.connection ∈ later.idleConnections := by
      simp [idleConnections, hidle]
    have hfirst : idleFor live.connection (usage :: past) = [] := by
      simp [idleFor, hnew]
    rw [hidle, List.pairwise_cons]
    constructor
    · -- the new one has been idle for this state only, the others for the one before it too
      intro older holder
      rw [hlonger holder (hafter holder), idleFor_cons hreleased, hfirst,
        idleFor_cons (mem_idleConnections holder)]
      simp
    · refine hremembers.order.imp_of_mem fun hnewer holder hlt => ?_
      rw [hlonger hnewer (hafter hnewer), hlonger holder (hafter holder)]
      omega

/-- One step keeps what a pool remembers true of the run. -/
theorem Remembers.next
    (hremembers : Remembers options usage past)
    (hchanges : Changes usage.world usage.clients later.world later.clients) :
    Remembers options later (usage :: past) where
  options := hchanges.ages.options.trans hremembers.options
  lost earlier hearlier connection hlost := by
    rcases List.mem_cons.mp hearlier with rfl | hearlier
    · exact hchanges.ages.lost connection hlost
    · exact hchanges.ages.lost connection (hremembers.lost earlier hearlier connection hlost)
  distinct := hremembers.distinct_next hchanges
  opened live hlive := by
    rcases mem_lives_next hchanges hlive with hold | ⟨rfl, hopened⟩
    · have hbelow := (hremembers.below hold).trans_le hchanges.ages.opened
      exact (hremembers.opened live hold).cons (by simpa using hbelow) hchanges.ages.now
    · exact startsAt_now (by simpa using hopened) (by simp)
  idle := hremembers.idle_next hchanges
  order := hremembers.order_next hchanges

theorem Remembers.trace
    {actions : List PoolAction}
    {last : PoolUsage}
    {before : List PoolUsage}
    (hremembers : Remembers options usage past)
    (horderly : usage.Orderly)
    (htrace : usage.trace past actions = some (last :: before)) :
    Remembers options last before ∧ last.Orderly := by
  induction actions generalizing usage past with
  | nil =>
    obtain ⟨rfl, rfl⟩ : usage = last ∧ past = before := by
      simpa [PoolUsage.trace] using htrace
    exact ⟨hremembers, horderly⟩
  | cons action rest ih =>
    unfold PoolUsage.trace at htrace
    cases hnext : usage.next action with
    | none => simp [hnext] at htrace
    | some later =>
      simp only [hnext] at htrace
      obtain ⟨hchanges, hlater⟩ := horderly.next hnext
      exact ih (hremembers.next hchanges) hlater htrace

/-- A pool may reuse an idle connection if it is fit by the states of the run. -/
theorem Remembers.usable_iff
    {entry : Idle}
    (hremembers : Remembers options usage past)
    (hentry : entry ∈ usage.world.driver.pool.idle) :
    Pool.Usable options usage.now usage.isUp entry
      ↔ Fit options usage.now (usage :: past) entry.live.connection := by
  have hlive : entry.live ∈ livesOf usage.world.driver usage.clients :=
    List.mem_append_left _ (List.mem_map_of_mem hentry)
  obtain ⟨⟨opening, hopening, hopened⟩, hfirst⟩ := hremembers.opened entry.live hlive
  obtain ⟨⟨release, hrelease, hsince⟩, hlast⟩ := hremembers.idle entry hentry
  constructor
  · intro husable
    refine ⟨fun earlier hearlier => ?_, fun limit hlimit earlier hearlier => ?_,
      fun limit hlimit earlier hearlier => ?_⟩
    · by_contra hlost
      have hdown : usage.isUp entry.live.connection = false := by
        rcases List.mem_cons.mp ((List.takeWhile_sublist _).subset hearlier) with rfl | hbefore
        · simpa using hlost
        · exact hremembers.lost earlier hbefore _ (by simpa using hlost)
      simp [husable.isOpen] at hdown
    · have hyoung := husable.young limit hlimit
      have hle : entry.live.opened ≤ earlier.now := hfirst ⟨earlier, hearlier, rfl⟩
      omega
    · have hfresh := husable.fresh limit hlimit
      have hle : entry.since ≤ earlier.now := hlast ⟨earlier, hearlier, rfl⟩
      omega
  · intro hfit
    refine ⟨?_, fun limit hlimit => ?_, fun limit hlimit => ?_⟩
    · have hbelow := hremembers.below hlive
      exact hfit.intact usage (by simp [openFor, hbelow])
    · rw [← hopened]
      exact hfit.young limit hlimit opening hopening
    · rw [← hsince]
      exact hfit.fresh limit hlimit release hrelease

/-- An idle connection that a step hands to a client may be reused, and none of those released after
it may. -/
theorem Remembers.handedOut
    (hremembers : Remembers options usage past)
    (hchanges : Changes usage.world usage.clients later.world later.clients)
    (hidle : connection ∈ usage.idleConnections)
    (hclient : connection ∈ later.clients.map Live.connection) :
    ∃ newer entry older, usage.world.driver.pool.idle = newer ++ entry :: older ∧
      Pool.Usable options usage.now usage.isUp entry ∧
      (∀ other ∈ newer, ¬ Pool.Usable options usage.now usage.isUp other) ∧
      entry.live.connection = connection := by
  obtain ⟨live, hlive, rfl⟩ := List.mem_map.mp hclient
  have hnot : live ∉ usage.clients := fun hmem => hremembers.not_idle hmem hidle
  cases hchanges.turnover with
  | fewer _ hclients => exact absurd (hclients.subset hlive) hnot
  | @reused newer older entry hsplit husable hnewer _ hclients =>
    rw [hremembers.options] at husable hnewer
    rw [hclients] at hlive
    obtain rfl : live = entry.live := (List.mem_cons.mp hlive).resolve_right hnot
    exact ⟨newer, entry, older, hsplit, husable, hnewer, rfl⟩
  | opened _ _ hclients =>
    rw [hclients] at hlive
    obtain rfl := (List.mem_cons.mp hlive).resolve_right hnot
    exact absurd hidle hremembers.opened_not_idle
  | stocked _ _ hclients => exact absurd (hclients ▸ hlive) hnot
  | released hclients _ =>
    exact absurd (hclients.mem_iff.mpr (List.mem_cons_of_mem _ hlive)) hnot

end History

section Result

variable {options : PoolOptions}

theorem remembers_of_unused
    {usage : PoolUsage}
    (hoptions : usage.world.driver.pool.options = options)
    (hidle : usage.world.driver.pool.idle = [])
    (hclients : usage.clients = []) :
    Remembers options usage [] where
  options := hoptions
  lost := by simp
  distinct := by simp [livesOf, hidle, hclients]
  opened := by simp [livesOf, hidle, hclients]
  idle := by simp [hidle]
  order := by simp [hidle]

theorem orderly_onDemand
    (options : PoolOptions)
    (future : List Turn) :
    (onDemand options future).Orderly :=
  ⟨by simp [onDemand], by simp [onDemand]⟩

theorem orderly_inAdvance
    (options : PoolOptions)
    (future : List Turn) :
    (inAdvance options future).Orderly := by
  have hturns : (Network.fillTask Wire.network).Turns fillTerms.returned
      (onDemand options future).world (onDemand options future).world :=
    turns_openIdle (.still (.refl _) rfl)
  exact (orderly_fill hturns (orderly_onDemand options future)).2

/-- At first, filling a pool only waits for a connection. -/
theorem inAdvance_eq
    (options : PoolOptions)
    (future : List Turn) :
    ∃ rest, inAdvance options future = { onDemand options future with filling := some rest } := by
  obtain ⟨count, hcount⟩ : ∃ count, max options.minConnections 1 = count + 1 :=
    Nat.exists_eq_add_one.mpr (lt_max_of_lt_right Nat.one_pos)
  have hadvance : ∃ rest, (Network.fillTask Wire.network).advance (onDemand options future).world
      = (.inr rest, (onDemand options future).world) := by
    change ∃ rest, (Network.openIdle Wire.network (max options.minConnections 1)).advance
      (onDemand options future).world = (.inr rest, (onDemand options future).world)
    rw [hcount]
    exact ⟨_, rfl⟩
  obtain ⟨rest, hrest⟩ := hadvance
  refine ⟨rest, ?_⟩
  rw [inAdvance, fill, hrest]

theorem remembers_start
    {future : List Turn}
    {start : PoolUsage}
    (hstart : start = onDemand options future ∨ start = inAdvance options future) :
    Remembers options start [] ∧ start.Orderly := by
  rcases hstart with rfl | rfl
  · exact ⟨remembers_of_unused rfl rfl rfl, orderly_onDemand options future⟩
  · obtain ⟨rest, heq⟩ := inAdvance_eq options future
    refine ⟨?_, orderly_inAdvance options future⟩
    rw [heq]
    exact remembers_of_unused rfl rfl rfl

/-- A pool takes the idle connection that was released last among those that are open, younger than
`maxLifetime` and idle for less than `idleTimeout`, if there is one. It drops those released after it
and keeps those released before it as they are; without any, it drops all. So whatever happens to a
pool in use, an idle connection that a step hands to a client was never closed since it was opened,
was opened less than `maxLifetime` ago, was released less than `idleTimeout` ago, and was released
after every other idle connection of which this is true. -/
theorem newest_fit_connection_is_reused :
    (∀ (pool : Pool) (now : Nat) (isOpen : Nat → Bool),
      (∃ newer entry older, pool.idle = newer ++ entry :: older ∧
          Pool.Usable pool.options now isOpen entry ∧
          (∀ other ∈ newer, ¬ Pool.Usable pool.options now isOpen other) ∧
          pool.takeIdle now isOpen = (some entry.live, { pool with idle := older }, newer)) ∨
        ((∀ other ∈ pool.idle, ¬ Pool.Usable pool.options now isOpen other) ∧
          pool.takeIdle now isOpen = (none, { pool with idle := [] }, pool.idle))) ∧
      ∀ {options : PoolOptions} {future : List Turn} {start usage later : PoolUsage}
        {actions : List PoolAction} {past : List PoolUsage} {action : PoolAction}
        {connection : Nat},
        start = onDemand options future ∨ start = inAdvance options future →
        start.trace [] actions = some (usage :: past) →
        usage.next action = some later →
        connection ∈ usage.idleConnections →
        connection ∈ later.clients.map Live.connection →
        Fit options usage.now (usage :: past) connection ∧
          ∀ other ∈ usage.idleConnections, other ≠ connection →
            Fit options usage.now (usage :: past) other →
            (idleFor connection (usage :: past)).length
              < (idleFor other (usage :: past)).length := by
  refine ⟨Pool.takeIdle_cases, ?_⟩
  intro options future start usage later actions past action connection hstart htrace hnext hidle
    hclient
  obtain ⟨hunused, hready⟩ := remembers_start hstart
  obtain ⟨hremembers, horderly⟩ := hunused.trace hready htrace
  obtain ⟨newer, entry, older, hsplit, husable, hnewer, rfl⟩ :=
    hremembers.handedOut (horderly.next hnext).1 hidle hclient
  have hentry : entry ∈ usage.world.driver.pool.idle := by simp [hsplit]
  refine ⟨(hremembers.usable_iff hentry).mp husable, fun connection hother hne hfit => ?_⟩
  obtain ⟨other, hmem, rfl⟩ := List.mem_map.mp hother
  have horder := hremembers.order
  rw [hsplit, List.pairwise_append, List.pairwise_cons] at horder
  have hfit' := (hremembers.usable_iff hmem).mpr hfit
  rw [hsplit] at hmem
  rcases List.mem_append.mp hmem with hbefore | hrest
  · exact absurd hfit' (hnewer other hbefore)
  · rcases List.mem_cons.mp hrest with rfl | hafter
    · exact absurd rfl hne
    · exact horder.2.1.1 other hafter

/-- Four connections are opened, the first of them 60 ms before the others. They are released in
turn, the fourth one first and the first one last. Then the first one grows too old, and the second
one is lost. -/
def quietHour : List PoolAction :=
  [.acquire, .poll 0 none, .poll 0 none, .pass 60, .acquire, .poll 0 none, .poll 0 none, .acquire,
    .poll 0 none, .poll 0 none, .acquire, .poll 0 none, .poll 0 none, .release 0 true, .pass 5,
    .release 0 true, .release 0 true, .release 0 true, .pass 35, .move 1 .lose, .acquire]

theorem newest_fit_connection_is_reused_after_quietHour :
    ∃ usage past later,
      (onDemand ⟨4, 0, some 100, some 50⟩ []).trace [] quietHour = some (usage :: past) ∧
      usage.next (.poll 0 none) = some later ∧
      (usage.idleConnections, later.idleConnections, later.clients.map Live.connection)
        = ([0, 1, 2, 3], [3], [2]) ∧
      Fit ⟨4, 0, some 100, some 50⟩ usage.now (usage :: past) 2 ∧
      ∀ other ∈ usage.idleConnections, other ≠ 2 →
        Fit ⟨4, 0, some 100, some 50⟩ usage.now (usage :: past) other →
        (idleFor 2 (usage :: past)).length < (idleFor other (usage :: past)).length := by
  obtain ⟨usage, past, htrace⟩ : ∃ usage past,
      (onDemand ⟨4, 0, some 100, some 50⟩ []).trace [] quietHour = some (usage :: past) :=
    ⟨_, _, rfl⟩
  have hseen : ((onDemand ⟨4, 0, some 100, some 50⟩ []).trace [] quietHour).bind (fun states =>
      states.head?.bind fun usage => (usage.next (.poll 0 none)).map fun later =>
        (usage.idleConnections, later.idleConnections, later.clients.map Live.connection))
      = some ([0, 1, 2, 3], [3], [2]) := by
    rfl
  rw [htrace, Option.bind_some, List.head?_cons, Option.bind_some, Option.map_eq_some_iff] at hseen
  obtain ⟨later, hnext, hseen⟩ := hseen
  obtain ⟨hidle, -, hclients⟩ : usage.idleConnections = [0, 1, 2, 3] ∧
      later.idleConnections = [3] ∧ later.clients.map Live.connection = [2] := by
    simpa using hseen
  have hwasIdle : 2 ∈ usage.idleConnections := by simp [hidle]
  have hhanded : 2 ∈ later.clients.map Live.connection := by simp [hclients]
  exact ⟨usage, past, later, htrace, hnext, hseen,
    newest_fit_connection_is_reused.2 (.inl rfl) htrace hnext hwasIdle hhanded⟩

end Result
end PoolUsage
end Postgres
end QueryBatch
