import QueryBatch.Proofs.Postgres.Usage

/-!
# Who has the permits of a pool

Every permit of a pool is in the pool, or with a call that opens a connection, or with a connection
that is checked out. `Balance` says this, and that the idle connections are no more than the permits
in the pool. While the pool is filled, some of these are in reserve for the connections to come.

`Task.Pays` says that a call keeps the balance whatever other calls do while it waits, and wherever
it is dropped. Checking a connection out does (`pays_acquire`), and so does filling the pool
(`pays_openIdle`).
-/

namespace QueryBatch
namespace Postgres

variable {α : Type}

section Defs

def inUse (state : State Wire) (clients : List Live) : List Nat :=
  state.pool.idle.map (fun entry => entry.live.connection) ++ clients.map Live.connection

/-- Who has the permits of a pool, when `opening` calls open connections and `clients` are checked
out. -/
structure Balance (total reserve : Nat) (state : State Wire) (opening : Nat) (clients : List Live) :
    Prop where
  permits : state.pool.permits + (opening + clients.length) = total
  room : state.pool.idle.length + reserve ≤ state.pool.permits
  distinct : (inUse state clients).Nodup
  opened : ∀ connection ∈ inUse state clients, connection < state.network.opened

/-- What a call has while it waits, in reserve and in permits, and the connections that it
returns. -/
structure Terms (α : Type) where
  during : Wait → Nat → Nat → Prop
  returned : α → List Live

/-- A call keeps the balance, next to the permits of others. It gives way only while it waits, so
nothing is said of the moments between. -/
def Task.Pays (total : Nat) (terms : Terms α) :
    Task Wire Unit α → World (State Wire) Unit → Nat → List Live → Prop
  | .done a, world, opening, clients =>
      Balance total 0 world.driver opening (terms.returned a ++ clients)
  | .act next change, world, opening, clients =>
      (next world).Pays total terms (change world) opening clients
  | .wait w next dropped, world, opening, clients =>
      ∃ reserve held, terms.during w reserve held ∧
        Balance total reserve world.driver (held + opening) clients ∧
        ∀ later opening clients, Balance total reserve later.driver (held + opening) clients →
          Balance total 0 (dropped later).driver opening clients ∧
            ∀ refusal answer left, w.resolve refusal later = some (answer, left) →
              (next answer).Pays total terms left opening clients

/-- A suspended call keeps the balance, whenever it goes on. -/
def Suspension.Pays (total : Nat) (terms : Terms α) (reserve held : Nat) (rest : Suspension α) :
    Prop :=
  ∀ later opening clients, Balance total reserve later.driver (held + opening) clients →
    Balance total 0 (rest.dropped later).driver opening clients ∧
      ∀ refusal task left, rest.resume refusal later = some (task, left) →
        task.Pays total terms left opening clients

/-- The permit of a call that opens a connection. -/
def Wait.cost (w : Wait) : Nat := if w = .connection then 1 else 0

def acquireTerms : Terms (Except DriverError Live) where
  during w reserve held := reserve = 0 ∧ held = w.cost
  returned
    | .ok live => [live]
    | .error _ => []

def fillTerms : Terms (Except DriverError Unit) where
  during _ reserve held := 1 ≤ reserve ∧ held = 0
  returned _ := []

end Defs

section Balance

variable {total reserve opening : Nat} {state later : State Wire} {clients others : List Live}
variable {live : Live}

namespace Balance

theorem keep
    (hbalance : Balance total reserve state opening clients)
    (hpool : later.pool = state.pool)
    (hopened : state.network.opened ≤ later.network.opened) :
    Balance total reserve later opening clients where
  permits := hpool ▸ hbalance.permits
  room := hpool ▸ hbalance.room
  distinct := by simpa only [inUse, hpool] using hbalance.distinct
  opened connection hmem := by
    have hlt := hbalance.opened connection (by simpa only [inUse, hpool] using hmem)
    exact hlt.trans_le hopened

theorem perm
    (hbalance : Balance total reserve state opening clients)
    (hperm : clients.Perm others) :
    Balance total reserve state opening others := by
  have hinUse : (inUse state clients).Perm (inUse state others) := (hperm.map _).append_left _
  constructor
  · rw [← hperm.length_eq]
    exact hbalance.permits
  · exact hbalance.room
  · exact hinUse.nodup_iff.mp hbalance.distinct
  · exact fun connection hmem => hbalance.opened connection (hinUse.mem_iff.mpr hmem)

theorem weaken
    {less : Nat}
    (hbalance : Balance total reserve state opening clients)
    (hless : less ≤ reserve) :
    Balance total less state opening clients where
  permits := hbalance.permits
  room := by
    have hroom := hbalance.room
    omega
  distinct := hbalance.distinct
  opened := hbalance.opened

/-- A call that opens a connection gives its permit back. -/
theorem returnPermit
    (hbalance : Balance total reserve state (1 + opening) clients) :
    Balance total reserve { state with pool := state.pool.returnPermit } opening clients where
  permits := by
    have hpermits := hbalance.permits
    simp only [Pool.returnPermit]
    omega
  room := by
    have hroom := hbalance.room
    simp only [Pool.returnPermit]
    omega
  distinct := hbalance.distinct
  opened := hbalance.opened

theorem opened_not_mem
    (hbalance : Balance total reserve state opening clients) :
    state.network.opened ∉ inUse state clients := by
  intro hmem
  exact absurd (hbalance.opened _ hmem) (lt_irrefl _)

/-- A call has opened a connection and checks it out. -/
theorem checkOut
    (hbalance : Balance total reserve state (1 + opening) clients)
    (hpool : later.pool = state.pool)
    (hopened : later.network.opened = state.network.opened + 1)
    (hlive : live.connection = state.network.opened) :
    Balance total reserve later opening (live :: clients) := by
  have hinUse : (inUse later (live :: clients)).Perm
      (state.network.opened :: inUse state clients) := by
    simp only [inUse, List.map_cons, hpool, hlive]
    exact List.perm_middle
  constructor
  · have hpermits := hbalance.permits
    rw [hpool, List.length_cons]
    omega
  · rw [hpool]
    exact hbalance.room
  · exact hinUse.nodup_iff.mpr (hbalance.distinct.cons hbalance.opened_not_mem)
  · intro connection hmem
    rw [hopened]
    rcases List.mem_cons.mp (hinUse.mem_iff.mp hmem) with rfl | hmem
    · exact Nat.lt_succ_self _
    · exact Nat.lt_succ_of_lt (hbalance.opened connection hmem)

/-- A permit is used for an idle connection. -/
theorem takeIdle
    {before after : List Idle}
    {entry : Idle}
    {permits : Nat}
    (hbalance : Balance total 0 state opening clients)
    (hpermits : state.pool.permits = permits + 1)
    (hidle : state.pool.idle = before ++ entry :: after)
    (hpool : later.pool = { state.pool with permits := permits, idle := after })
    (hopened : later.network.opened = state.network.opened) :
    Balance total 0 later opening (entry.live :: clients) := by
  have hinUse : (inUse later (entry.live :: clients)).Perm
      ((entry :: after).map (fun entry => entry.live.connection)
        ++ clients.map Live.connection) := by
    simp only [inUse, hpool, List.map_cons, List.cons_append]
    exact List.perm_middle
  have hsublist : ((entry :: after).map (fun entry => entry.live.connection)
      ++ clients.map Live.connection).Sublist (inUse state clients) := by
    rw [inUse, hidle]
    exact ((List.sublist_append_right before _).map _).append (List.Sublist.refl _)
  constructor
  · have hall := hbalance.permits
    rw [hpool, List.length_cons]
    dsimp only
    omega
  · have hroom := hbalance.room
    rw [hidle, List.length_append, List.length_cons] at hroom
    rw [hpool]
    dsimp only
    omega
  · exact hinUse.nodup_iff.mpr (hbalance.distinct.sublist hsublist)
  · intro connection hmem
    rw [hopened]
    exact hbalance.opened connection (hsublist.subset (hinUse.mem_iff.mp hmem))

/-- A permit is used to open a connection, when none is idle any more. -/
theorem takePermit
    {permits : Nat}
    (hbalance : Balance total 0 state opening clients)
    (hpermits : state.pool.permits = permits + 1)
    (hpool : later.pool = { state.pool with permits := permits, idle := [] })
    (hopened : later.network.opened = state.network.opened) :
    Balance total 0 later (1 + opening) clients := by
  have hsublist : (inUse later clients).Sublist (inUse state clients) := by
    simp only [inUse, hpool, List.map_nil, List.nil_append]
    exact List.sublist_append_right _ _
  constructor
  · have hall := hbalance.permits
    rw [hpool]
    dsimp only
    omega
  · rw [hpool]
    exact Nat.zero_le _
  · exact hbalance.distinct.sublist hsublist
  · intro connection hmem
    rw [hopened]
    exact hbalance.opened connection (hsublist.subset hmem)

/-- The permit of a client comes back before its connection does. -/
theorem giveBack
    (hbalance : Balance total reserve state opening (live :: clients)) :
    Balance total (reserve + 1) { state with pool := state.pool.returnPermit } opening clients ∧
      live.connection ∉ inUse state clients ∧ live.connection < state.network.opened := by
  have hinUse : (inUse state (live :: clients)).Perm
      (live.connection :: inUse state clients) := by
    simp only [inUse, List.map_cons]
    exact List.perm_middle
  obtain ⟨hnew, hdistinct⟩ := List.nodup_cons.mp (hinUse.nodup_iff.mp hbalance.distinct)
  refine ⟨⟨?_, ?_, hdistinct, fun connection hmem => ?_⟩, hnew, ?_⟩
  · have hpermits := hbalance.permits
    rw [List.length_cons] at hpermits
    simp only [Pool.returnPermit]
    omega
  · have hroom := hbalance.room
    simp only [Pool.returnPermit]
    omega
  · exact hbalance.opened connection (hinUse.mem_iff.mpr (List.mem_cons_of_mem _ hmem))
  · exact hbalance.opened _ (hinUse.mem_iff.mpr List.mem_cons_self)

/-- A connection is put among the idle ones, where there is room for it. -/
theorem addIdle
    {since : Nat}
    (hbalance : Balance total (reserve + 1) state opening clients)
    (hnew : live.connection ∉ inUse state clients)
    (hlive : live.connection < state.network.opened)
    (hpool : later.pool = { state.pool with idle := ⟨live, since⟩ :: state.pool.idle })
    (hopened : later.network.opened = state.network.opened) :
    Balance total reserve later opening clients := by
  have hinUse : inUse later clients = live.connection :: inUse state clients := by
    simp [inUse, hpool]
  constructor
  · rw [hpool]
    exact hbalance.permits
  · have hroom := hbalance.room
    rw [hpool, List.length_cons]
    dsimp only
    omega
  · rw [hinUse]
    exact hbalance.distinct.cons hnew
  · intro connection hmem
    rw [hinUse] at hmem
    rw [hopened]
    rcases List.mem_cons.mp hmem with rfl | hmem
    · exact hlive
    · exact hbalance.opened connection hmem

end Balance

variable {world : World (State Wire) Unit}

theorem Balance.release
    (hbalance : Balance total (reserve + 1) world.driver opening clients)
    (hnew : live.connection ∉ inUse world.driver clients)
    (hlive : live.connection < world.driver.network.opened) :
    Balance total reserve (Network.release Wire.network live world).driver opening clients := by
  rcases release_cases live world with hgone | ⟨-, -, hkept⟩
  · rw [hgone]
    have hopened := (Passes.leave live.connection world).wire.opened
    exact (hbalance.weaken (Nat.le_succ _)).keep rfl hopened.ge
  · rw [hkept]
    exact hbalance.addIdle hnew hlive rfl rfl

/-- A client is put back, clean or not, and its permit with it. -/
theorem Balance.checkIn
    (hbalance : Balance total reserve world.driver opening (live :: clients))
    (clean : Bool) :
    Balance total reserve (Network.checkIn Wire.network clean live world).driver opening
      clients := by
  obtain ⟨hleft, hnew, hlive⟩ := hbalance.giveBack
  cases clean with
  | false =>
    have hopened := (drifts_checkIn false live world).opened
    exact (hleft.weaken (Nat.le_succ _)).keep rfl hopened.ge
  | true =>
    change Balance total reserve
      (changePool Pool.returnPermit (Network.release Wire.network live world)).driver opening
        clients
    rcases release_cases live world with hgone | ⟨-, -, hkept⟩
    · rw [hgone]
      have hopened := (Passes.leave live.connection world).wire.opened
      exact (hleft.weaken (Nat.le_succ _)).keep rfl hopened.ge
    · rw [hkept]
      exact hleft.addIdle hnew hlive rfl rfl

end Balance

section Calls

variable {total opening : Nat} {clients : List Live} {world : World (State Wire) Unit}

theorem pool_leaveAll
    (entries : List Idle)
    (world : World (State Wire) Unit) :
    (Network.leaveAll Wire.network entries world).driver.pool = world.driver.pool := by
  induction entries generalizing world with
  | nil => rfl
  | cons first rest ih => exact ih _

theorem pays_step_bind
    {β : Type}
    {terms : Terms α}
    {f : World (State Wire) Unit → β × World (State Wire) Unit}
    {next : β → Task Wire Unit α} :
    (Task.step f >>= next).Pays total terms world opening clients
      ↔ (next (f world).1).Pays total terms (f world).2 opening clients :=
  Iff.rfl

/-- A call that opens a connection gives its permit back if it fails or is dropped. -/
theorem pays_opening
    (hbalance : Balance total 0 world.driver (1 + opening) clients) :
    (Task.onDrop (changePool Pool.returnPermit) Network.openLive >>= fun opened =>
      match opened with
      | .ok live => return .ok live
      | .error fault => do
          Task.change (changePool Pool.returnPermit)
          return .error (.connection fault.message)).Pays total acquireTerms world opening
        clients := by
  refine ⟨0, 1, ⟨rfl, rfl⟩, hbalance, fun later opening clients hlater => ⟨?_, ?_⟩⟩
  · exact hlater.returnPermit
  · intro refusal result left hresult
    obtain ⟨rfl, fault, rfl⟩ | ⟨rfl, rfl⟩ := resolve_connection hresult
    · exact hlater.returnPermit
    · exact hlater.checkOut rfl rfl rfl

theorem pays_acquire
    (hbalance : Balance total 0 world.driver opening clients) :
    (Network.acquire Wire.network).Pays total acquireTerms world opening clients := by
  have hsettled : Balance total 0 (Wire.network.settled world).driver (0 + opening) clients := by
    rw [Nat.zero_add]
    exact hbalance.keep rfl (Passes.settled world).wire.opened.ge
  refine ⟨0, 0, ⟨rfl, rfl⟩, hsettled, fun later opening clients hlater => ?_⟩
  rw [Nat.zero_add] at hlater
  refine ⟨hlater, fun refusal granted left hgranted => ?_⟩
  obtain ⟨rfl, rfl⟩ | ⟨rfl, permits, hpermits, rfl⟩ := resolve_permit hgranted
  · exact hlater
  · set left := changePool (fun pool => { pool with permits := permits }) later
    have htaken (remaining dropped : List Idle) :
        let taken := Network.leaveAll Wire.network dropped
          (changePool (fun pool => { pool with idle := remaining }) left)
        taken.driver.pool = { later.driver.pool with permits := permits, idle := remaining } ∧
          taken.driver.network.opened = later.driver.network.opened :=
      ⟨pool_leaveAll dropped _, (Passes.leaveAll dropped _).wire.opened⟩
    apply pays_step_bind.mpr
    simp only [Pool.takeIdle]
    rcases Pool.search_cases (Pool.reusable left.driver.pool.options left.now
      (Wire.network.isOpen left.driver.network)) left.driver.pool.idle
      with ⟨newer, entry, older, hidle, -, -, hsearch⟩ | ⟨-, hsearch⟩
    · simp only [hsearch]
      obtain ⟨hpool, hopened⟩ := htaken older newer
      exact hlater.takeIdle hpermits hidle hpool hopened
    · simp only [hsearch]
      obtain ⟨hpool, hopened⟩ := htaken [] left.driver.pool.idle
      exact pays_opening (hlater.takePermit hpermits hpool hopened)

/-- Filling the pool keeps the balance, with as many permits in reserve as connections are still to
be opened. -/
theorem pays_openIdle
    {reserve : Nat}
    (hbalance : Balance total reserve world.driver opening clients) :
    (Network.openIdle Wire.network reserve).Pays total fillTerms world opening clients := by
  induction reserve generalizing world opening clients with
  | zero => exact hbalance
  | succ reserve ih =>
    refine ⟨reserve + 1, 0, ⟨Nat.le_add_left 1 reserve, rfl⟩, by rwa [Nat.zero_add], ?_⟩
    intro later opening clients hlater
    rw [Nat.zero_add] at hlater
    refine ⟨hlater.weaken (Nat.zero_le _), fun refusal result left hresult => ?_⟩
    obtain ⟨rfl, fault, rfl⟩ | ⟨rfl, rfl⟩ := resolve_connection hresult
    · exact hlater.weaken (Nat.zero_le _)
    · have hopened : later.driver.network.opened < later.driver.network.opened + 1 :=
        Nat.lt_succ_self _
      refine ih (Balance.release (hlater.keep rfl hopened.le) ?_ hopened)
      exact hlater.opened_not_mem

/-- When the pool is closed, its idle connections are let go. -/
theorem Balance.closed
    {reserve : Nat}
    (hbalance : Balance total reserve world.driver opening clients) :
    Balance total reserve (Network.closed Wire.network world).driver opening clients := by
  have hpool : (Network.closed Wire.network world).driver.pool
      = { world.driver.pool with idle := [], closed := true } := pool_leaveAll _ _
  have hopened : (Network.closed Wire.network world).driver.network.opened
      = world.driver.network.opened := (Passes.leaveAll _ _).wire.opened
  have hsublist : (inUse (Network.closed Wire.network world).driver clients).Sublist
      (inUse world.driver clients) := by
    simp only [inUse, hpool, List.map_nil, List.nil_append]
    exact List.sublist_append_right _ _
  constructor
  · rw [hpool]
    exact hbalance.permits
  · have hroom := hbalance.room
    rw [hpool, List.length_nil]
    dsimp only
    omega
  · exact hbalance.distinct.sublist hsublist
  · intro connection hmem
    rw [hopened]
    exact hbalance.opened connection (hsublist.subset hmem)

end Calls
end Postgres
end QueryBatch
