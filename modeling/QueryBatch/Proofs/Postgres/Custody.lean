import QueryBatch.Proofs.Postgres.Permits

/-!
# Who has the open connections

A connection is open until it is lost or let go. Until then it is idle, or a transaction has it, or
a call has it in hand (`Custody`). Nothing is idle in a closed pool, so a connection that is given
back to one is let go.

`Task.Keeps` says that a call keeps account of the connections whatever other calls do while it
waits, the closing of the pool included, and wherever it is dropped. All calls of the driver do, one
lemma for each.
-/

namespace QueryBatch
namespace Postgres

variable {α β : Type}

section Defs

/-- What a call or a caller has in hand: a connection, or a transaction with the connection that it
holds. -/
inductive Grip
  | connection (live : Live)
  | transaction (tx : Nat)

def Grip.live? : Grip → Option Live
  | .connection live => some live
  | .transaction _ => none

/-- The connections that are idle, held by transactions, or in the hands of calls. -/
def users (state : State Wire) (hands : List Grip) : List Live :=
  state.pool.idle.map Idle.live ++ (state.held.map Prod.snd ++ hands.filterMap Grip.live?)

/-- All open connections have users, and all transactions that hold one are in somebody's hands. If
the pool was shut when so many connections had been opened, it is closed. -/
structure Custody (shut : Option Nat) (state : State Wire) (hands : List Grip) : Prop where
  closed : ∀ before ∈ shut, state.pool.closed = true ∧ before ≤ state.network.opened
  empty : state.pool.closed = true → state.pool.idle = []
  used : ∀ connection < state.network.opened, (state.network.line connection).up = true →
    ∃ live ∈ users state hands, live.connection = connection
  opened : ∀ live ∈ users state hands, live.connection < state.network.opened
  owned : ∀ entry ∈ state.held, .transaction entry.1 ∈ hands
  numbers : (state.held.map Prod.fst).Nodup
  below : ∀ entry ∈ state.held, entry.1 < state.nextTx

/-- What a call has in hand while it waits, when it has been dropped, and when it returns. -/
structure Charge (α : Type) where
  during : List Grip
  dropped : List Grip
  returned : α → List Grip

/-- The charge of a call that has the same in hand all the time. -/
def staying (hands : List Grip) : Charge α := ⟨hands, hands, fun _ => hands⟩

/-- The charge of a call that gives away what it was handed. -/
def passing (hands : List Grip) : Charge α := ⟨hands, [], fun _ => []⟩

/-- The charge of a call that is to return a connection. -/
def obtaining {ε : Type} : Charge (Except ε Live) where
  during := []
  dropped := []
  returned
    | .ok live => [.connection live]
    | .error _ => []

/-- The charge of a call that is to begin a transaction on a connection. -/
def beginning (live : Live) : Charge (Except DriverError Nat) where
  during := [.connection live]
  dropped := []
  returned
    | .ok tx => [.transaction tx]
    | .error _ => []

/-- A call keeps account of the connections, next to those in the hands of others. While it waits
others may do anything that keeps account as well. -/
def Task.Keeps (charge : Charge α) :
    Task Wire Unit α → Option Nat → World (State Wire) Unit → List Grip → Prop
  | .done a, shut, world, others => Custody shut world.driver (charge.returned a ++ others)
  | .act next change, shut, world, others => (next world).Keeps charge shut (change world) others
  | .wait w next dropped, shut, world, others =>
      Custody shut world.driver (charge.during ++ others) ∧
        ∀ shut later others, Custody shut later.driver (charge.during ++ others) →
          Custody shut (dropped later).driver (charge.dropped ++ others) ∧
            ∀ refusal answer left, w.resolve refusal later = some (answer, left) →
              (next answer).Keeps charge shut left others

end Defs

section Custody

variable {shut : Option Nat} {state later : State Wire} {hands others : List Grip}
variable {live other : Live} {tx : Nat} {world : World (State Wire) Unit}

/-- Nothing is lost in a search among idle connections. -/
theorem Pool.search_append
    {usable : Idle → Bool}
    {idle remaining dropped : List Idle}
    {found : Option Live}
    (hsearch : Pool.search usable idle = (found, remaining, dropped)) :
    idle.map Idle.live = dropped.map Idle.live ++ (found.toList ++ remaining.map Idle.live) := by
  rcases search_cases usable idle with ⟨newer, entry, older, rfl, -, -, heq⟩ | ⟨-, heq⟩
  · obtain ⟨rfl, rfl, rfl⟩ : some entry.live = found ∧ older = remaining ∧ newer = dropped := by
      simpa [heq] using hsearch
    simp
  · obtain ⟨rfl, rfl, rfl⟩ : none = found ∧ [] = remaining ∧ idle = dropped := by
      simpa [heq] using hsearch
    simp

theorem mem_users :
    live ∈ users state hands
      ↔ live ∈ state.pool.idle.map Idle.live ∨ live ∈ state.held.map Prod.snd
        ∨ .connection live ∈ hands := by
  have hgrip (grip : Grip) : grip.live? = some live ↔ grip = .connection live := by
    cases grip <;> simp [Grip.live?]
  simp [users, hgrip]

theorem mem_users_connection :
    other ∈ users state (.connection live :: hands) ↔ other = live ∨ other ∈ users state hands := by
  rw [mem_users, mem_users, List.mem_cons, Grip.connection.injEq]
  tauto

theorem mem_users_transaction :
    other ∈ users state (.transaction tx :: hands) ↔ other ∈ users state hands := by
  have hne : Grip.connection other ≠ .transaction tx := by simp
  rw [mem_users, mem_users, List.mem_cons, or_iff_right hne]

theorem connection_mem_map
    {lives : List Live} :
    .connection live ∈ lives.map Grip.connection ↔ live ∈ lives :=
  List.mem_map_of_injective fun _ _ => Grip.connection.inj

namespace Custody

/-- Only the users count, in whatever order. -/
theorem users_congr
    (hcustody : Custody shut state hands)
    (hnetwork : later.network = state.network)
    (hclosed : state.pool.closed = true → later.pool.closed = true)
    (hempty : later.pool.closed = true → later.pool.idle = [])
    (hheld : later.held.Sublist state.held)
    (hnext : later.nextTx = state.nextTx)
    (husers : ∀ live, live ∈ users later others ↔ live ∈ users state hands)
    (howned : ∀ entry ∈ later.held, .transaction entry.1 ∈ others) :
    Custody shut later others where
  closed before hbefore := by
    rw [hnetwork]
    exact (hcustody.closed before hbefore).imp_left hclosed
  empty := hempty
  used connection hopened hup := by
    rw [hnetwork] at hopened hup
    obtain ⟨live, hlive, hconnection⟩ := hcustody.used connection hopened hup
    exact ⟨live, (husers live).2 hlive, hconnection⟩
  opened live hlive := by
    rw [hnetwork]
    exact hcustody.opened live ((husers live).1 hlive)
  owned := howned
  numbers := hcustody.numbers.sublist (hheld.map Prod.fst)
  below entry hmem := by
    rw [hnext]
    exact hcustody.below entry (hheld.subset hmem)

theorem congr_hands
    (hcustody : Custody shut state hands)
    (hhands : ∀ grip, grip ∈ others ↔ grip ∈ hands) :
    Custody shut state others := by
  refine hcustody.users_congr rfl id hcustody.empty (.refl _) rfl (fun live => ?_) ?_
  · rw [mem_users, mem_users, hhands]
  · exact fun entry hmem => (hhands _).2 (hcustody.owned entry hmem)

/-- Connections may be lost while time passes, and no new one is opened. -/
theorem lose
    (hcustody : Custody shut state hands)
    (hpool : later.pool.idle = state.pool.idle ∧ later.pool.closed = state.pool.closed)
    (hheld : later.held = state.held)
    (hnext : later.nextTx = state.nextTx)
    (hopened : later.network.opened = state.network.opened)
    (hlines : ∀ connection, (later.network.line connection).up = true →
      (state.network.line connection).up = true) :
    Custody shut later hands := by
  have husers : users later hands = users state hands := by simp [users, hpool.1, hheld]
  constructor
  · rw [hpool.2, hopened]
    exact hcustody.closed
  · intro hclosed
    rw [hpool.1]
    exact hcustody.empty (hpool.2.symm.trans hclosed)
  · intro connection hlt hup
    rw [husers]
    exact hcustody.used connection (hopened ▸ hlt) (hlines connection hup)
  · rw [husers, hopened]
    exact hcustody.opened
  · rw [hheld]
    exact hcustody.owned
  · rw [hheld]
    exact hcustody.numbers
  · rw [hheld, hnext]
    exact hcustody.below

theorem drift
    (hcustody : Custody shut state hands)
    (hpool : later.pool.idle = state.pool.idle ∧ later.pool.closed = state.pool.closed)
    (hheld : later.held = state.held)
    (hnext : later.nextTx = state.nextTx)
    (hwire : state.network.Drifts later.network) :
    Custody shut later hands := by
  refine hcustody.lose hpool hheld hnext hwire.opened fun connection hup => ?_
  by_contra hdown
  have hlost := ((hwire.line connection).lost (by simpa using hdown)).1
  simp [hlost] at hup

theorem changePool
    {f : Pool → Pool}
    (hcustody : Custody shut world.driver hands)
    (hidle : (f world.driver.pool).idle = world.driver.pool.idle)
    (hclosed : (f world.driver.pool).closed = world.driver.pool.closed) :
    Custody shut (changePool f world).driver hands :=
  hcustody.drift ⟨hidle, hclosed⟩ rfl rfl (.refl _)

/-- A transaction is not the connection that a call has in hand. -/
theorem owned_others
    (hcustody : Custody shut state (.connection live :: hands)) :
    ∀ entry ∈ state.held, .transaction entry.1 ∈ hands := by
  intro entry hmem
  simpa using hcustody.owned entry hmem

/-- A connection that is let go has no user, and needs none. -/
theorem leave
    (hcustody : Custody shut world.driver (.connection live :: hands)) :
    Custody shut (changeNetwork (Wire.network.leave live.connection) world).driver hands := by
  have hlt : live.connection < world.driver.network.opened :=
    hcustody.opened live (mem_users_connection.2 (.inl rfl))
  have hleft : Wire.network.leave live.connection world.driver.network
      = world.driver.network.put live.connection
        { world.driver.network.line live.connection with up := false } := if_pos hlt
  constructor
  · simp only [changeNetwork, hleft, Wire.opened_put]
    exact hcustody.closed
  · exact hcustody.empty
  · intro connection hopened hup
    simp only [changeNetwork, hleft] at hopened hup
    have hne : connection ≠ live.connection := by
      rintro rfl
      simp at hup
    rw [Wire.line_put_of_ne hne] at hup
    obtain ⟨other, hother, rfl⟩ := hcustody.used connection hopened hup
    have hothers : other ≠ live := fun heq => hne (congrArg Live.connection heq)
    rw [mem_users_connection, or_iff_right hothers] at hother
    exact ⟨other, hother, rfl⟩
  · intro other hother
    simp only [changeNetwork, hleft, Wire.opened_put]
    exact hcustody.opened other (mem_users_connection.2 (.inr hother))
  · exact hcustody.owned_others
  · exact hcustody.numbers
  · exact hcustody.below

theorem leaveAll
    (entries : List Idle)
    (hcustody : Custody shut world.driver
      ((entries.map Idle.live).map Grip.connection ++ hands)) :
    Custody shut (Network.leaveAll Wire.network entries world).driver hands := by
  induction entries generalizing world with
  | nil => exact hcustody
  | cons first rest ih => exact ih hcustody.leave

/-- A connection is given back: it is idle then, or let go. -/
theorem release
    (hcustody : Custody shut world.driver (.connection live :: hands)) :
    Custody shut (Network.release Wire.network live world).driver hands := by
  rcases release_cases live world with hgone | ⟨hclosed, -, hkept⟩
  · rw [hgone]
    exact hcustody.leave
  · rw [hkept]
    change Custody shut { world.driver with pool := { world.driver.pool with
      idle := ⟨live, world.now⟩ :: world.driver.pool.idle } } hands
    refine hcustody.users_congr rfl id (fun hshut => absurd hshut ?_) (.refl _) rfl ?_
      hcustody.owned_others
    · rw [hclosed]
      exact Bool.false_ne_true
    · intro other
      rw [mem_users_connection, mem_users, mem_users, List.map_cons, List.mem_cons]
      exact or_assoc

theorem checkIn
    (hcustody : Custody shut world.driver (.connection live :: hands))
    (clean : Bool) :
    Custody shut (Network.checkIn Wire.network clean live world).driver hands := by
  cases clean with
  | true => exact hcustody.release.changePool rfl rfl
  | false =>
    let noted := world.note "DEBUG"
      [("message", "discarding database connection in an unknown state")]
    have hnoted : Custody shut noted.driver (.connection live :: hands) := hcustody
    exact hnoted.leave.changePool rfl rfl

/-- A new connection is in the hands of the call that opened it. -/
theorem openLine
    (hcustody : Custody shut state hands)
    (hpool : later.pool = state.pool)
    (hheld : later.held = state.held)
    (hnext : later.nextTx = state.nextTx)
    (hline : later.network.line = state.network.line)
    (hopened : later.network.opened = state.network.opened + 1)
    (hlive : live.connection = state.network.opened) :
    Custody shut later (.connection live :: hands) := by
  have husers : users later hands = users state hands := by simp [users, hpool, hheld]
  constructor
  · intro before hbefore
    rw [hpool, hopened]
    exact (hcustody.closed before hbefore).imp_right (Nat.le_succ_of_le ·)
  · rw [hpool]
    exact hcustody.empty
  · intro connection hlt hup
    rw [hline] at hup
    by_cases hnew : connection = state.network.opened
    · exact ⟨live, mem_users_connection.2 (.inl rfl), hlive.trans hnew.symm⟩
    · obtain ⟨other, hother, hconnection⟩ := hcustody.used connection (by omega) hup
      rw [← husers] at hother
      exact ⟨other, mem_users_connection.2 (.inr hother), hconnection⟩
  · intro other hother
    rw [mem_users_connection, husers] at hother
    rcases hother with rfl | hother
    · omega
    · have hlt := hcustody.opened other hother
      omega
  · exact fun entry hmem => List.mem_cons_of_mem _ (hcustody.owned entry (hheld ▸ hmem))
  · rw [hheld]
    exact hcustody.numbers
  · rw [hheld, hnext]
    exact hcustody.below

/-- An idle connection is taken in hand, and those before it are let go. -/
theorem takeIdle
    {found : Option Live}
    {remaining dropped : List Idle}
    {usable : Idle → Bool}
    (hcustody : Custody shut world.driver hands)
    (hsearch : Pool.search usable world.driver.pool.idle = (found, remaining, dropped)) :
    Custody shut (Network.leaveAll Wire.network dropped
      (Postgres.changePool (fun pool => { pool with idle := remaining }) world)).driver
        (found.toList.map Grip.connection ++ hands) := by
  have hidle := Pool.search_append hsearch
  apply leaveAll
  refine hcustody.users_congr rfl id ?_ (.refl _) rfl ?_ ?_
  · intro hclosed
    have hnone : world.driver.pool.idle = [] := hcustody.empty hclosed
    rw [hnone, List.map_nil, List.nil_eq, List.append_eq_nil_iff, List.append_eq_nil_iff] at hidle
    exact List.map_eq_nil_iff.1 hidle.2.2
  · intro live
    rw [mem_users, mem_users, hidle]
    simp only [Postgres.changePool, List.mem_append, connection_mem_map]
    tauto
  · intro entry hmem
    exact List.mem_append_right _ (List.mem_append_right _ (hcustody.owned entry hmem))

/-- A transaction takes over a connection from the call that began it. -/
theorem begin
    (hcustody : Custody shut state (.connection live :: hands)) :
    Custody shut { state with
      held := (state.nextTx, live) :: state.held, nextTx := state.nextTx + 1 }
        (.transaction state.nextTx :: hands) := by
  have husers : ∀ other, other ∈ users { state with
      held := (state.nextTx, live) :: state.held, nextTx := state.nextTx + 1 }
        (.transaction state.nextTx :: hands) ↔ other ∈ users state (.connection live :: hands) := by
    intro other
    rw [mem_users_transaction, mem_users_connection, mem_users, mem_users, List.map_cons,
      List.mem_cons]
    tauto
  refine ⟨hcustody.closed, hcustody.empty, ?_, ?_, ?_, ?_, ?_⟩
  · intro connection hlt hup
    obtain ⟨other, hother, hconnection⟩ := hcustody.used connection hlt hup
    exact ⟨other, (husers other).2 hother, hconnection⟩
  · exact fun other hother => hcustody.opened other ((husers other).1 hother)
  · intro entry hmem
    rcases List.mem_cons.1 hmem with rfl | hmem
    · exact List.mem_cons_self
    · exact List.mem_cons_of_mem _ (hcustody.owned_others entry hmem)
  · refine List.nodup_cons.2 ⟨fun hmem => ?_, hcustody.numbers⟩
    obtain ⟨entry, hentry, hnumber⟩ := List.mem_map.1 hmem
    exact absurd (hcustody.below entry hentry) (hnumber ▸ lt_irrefl _)
  · intro entry hmem
    rcases List.mem_cons.1 hmem with rfl | hmem
    · exact Nat.lt_succ_self _
    · exact (hcustody.below entry hmem).trans (Nat.lt_succ_self _)

/-- A transaction that ends leaves its connection in hand. -/
theorem leaveTx
    (hcustody : Custody shut state (.transaction tx :: hands))
    (hlookup : state.held.lookup tx = some live) :
    Custody shut { state with held := state.held.filter (·.1 ≠ tx) }
      (.connection live :: hands) := by
  have hfound : ∀ entry ∈ state.held, entry.1 = tx → entry.2 = live := by
    intro entry hmem hkey
    have hsame := lookup_of_mem hcustody.numbers hmem
    rw [hkey, hlookup] at hsame
    exact (Option.some.inj hsame).symm
  obtain ⟨before, behind, hheld, -⟩ := List.lookup_eq_some_iff.1 hlookup
  have htransactions (other : Live) :
      (other = live ∨ other ∈ (state.held.filter (·.1 ≠ tx)).map Prod.snd)
        ↔ other ∈ state.held.map Prod.snd := by
    constructor
    · rintro (rfl | hmem)
      · simp [hheld]
      · exact (List.filter_sublist.map Prod.snd).subset hmem
    · intro hmem
      obtain ⟨entry, hentry, rfl⟩ := List.mem_map.1 hmem
      by_cases hkey : entry.1 = tx
      · exact .inl (hfound entry hentry hkey)
      · exact .inr (List.mem_map_of_mem (List.mem_filter.2 ⟨hentry, by simpa using hkey⟩))
  refine hcustody.users_congr rfl id hcustody.empty List.filter_sublist rfl (fun other => ?_) ?_
  · rw [mem_users_connection, mem_users_transaction, mem_users, mem_users, ← htransactions]
    tauto
  · intro entry hmem
    obtain ⟨hentry, hkey⟩ := List.mem_filter.1 hmem
    refine List.mem_cons_of_mem _ ((List.mem_cons.1 (hcustody.owned entry hentry)).resolve_left ?_)
    simpa using hkey

/-- A transaction that has come to its end holds no connection. -/
theorem forgetTx
    (hcustody : Custody shut state (.transaction tx :: hands))
    (hlookup : state.held.lookup tx = none) :
    Custody shut state hands := by
  refine hcustody.users_congr rfl id hcustody.empty (.refl _) rfl (fun other => ?_) ?_
  · rw [mem_users_transaction]
  · intro entry hmem
    refine (List.mem_cons.1 (hcustody.owned entry hmem)).resolve_left fun hsame => ?_
    have hfound := lookup_of_mem hcustody.numbers hmem
    rw [Grip.transaction.inj hsame, hlookup] at hfound
    cases hfound

/-- A transaction that ends gives its connection back. -/
theorem endTx
    (hcustody : Custody shut world.driver (.transaction tx :: hands))
    (clean : Bool) :
    Custody shut (Network.endTx Wire.network clean tx world).driver hands := by
  unfold Network.endTx
  cases hlookup : world.driver.held.lookup tx with
  | none => exact hcustody.forgetTx hlookup
  | some live => exact checkIn (hcustody.leaveTx hlookup) clean

/-- A pool that is closed lets its idle connections go. -/
theorem close
    {since : Option Nat}
    (hcustody : Custody shut world.driver hands)
    (hsince : ∀ before ∈ since, before ≤ world.driver.network.opened) :
    Custody since (Network.closed Wire.network world).driver hands := by
  have hclosed : Custody shut (Postgres.changePool (fun pool => pool.close.1) world).driver
      ((world.driver.pool.idle.map Idle.live).map Grip.connection ++ hands) := by
    refine hcustody.users_congr rfl (fun _ => rfl) (fun _ => rfl) (.refl _) rfl (fun live => ?_) ?_
    · rw [mem_users, mem_users, List.mem_append]
      simp only [Postgres.changePool, Pool.close, List.map_nil, List.not_mem_nil, false_or,
        connection_mem_map]
      exact or_left_comm
    · exact fun entry hmem => List.mem_append_right _ (hcustody.owned entry hmem)
  exact leaveAll _ { hclosed with closed := fun before hbefore => ⟨rfl, hsince before hbefore⟩ }

end Custody
end Custody

section Calls

variable {shut : Option Nat} {world : World (State Wire) Unit} {hands others : List Grip}
variable {live : Live} {tx : Nat} {charge : Charge α}

namespace Task.Keeps

/-- A call that goes on with another one has in hand what the first one returns. -/
theorem bind
    {task : Task Wire Unit α}
    {next : α → Task Wire Unit β}
    {last : Charge β}
    {returned : α → List Grip}
    (hkeeps : task.Keeps ⟨last.during, last.dropped, returned⟩ shut world others)
    (hnext : ∀ a shut left others, Custody shut left.driver (returned a ++ others) →
      (next a).Keeps last shut left others) :
    (task >>= next).Keeps last shut world others := by
  induction task generalizing shut world others with
  | done a => exact hnext a shut world others hkeeps
  | act body change ih => exact ih world hkeeps
  | wait w body dropped ih =>
    obtain ⟨hcustody, hlater⟩ := hkeeps
    refine ⟨hcustody, fun shut later others hcustody => ?_⟩
    obtain ⟨hdropped, hbody⟩ := hlater shut later others hcustody
    exact ⟨hdropped, fun refusal answer left hanswer =>
      ih answer (hbody refusal answer left hanswer)⟩

/-- What is left to do when a call is dropped may give away what it has in hand then. -/
theorem onDrop
    {task : Task Wire Unit α}
    {leave : World (State Wire) Unit → World (State Wire) Unit}
    {dropped : List Grip}
    (hkeeps : task.Keeps charge shut world others)
    (hleave : ∀ shut left others, Custody shut left.driver (charge.dropped ++ others) →
      Custody shut (leave left).driver (dropped ++ others)) :
    (task.onDrop leave).Keeps { charge with dropped := dropped } shut world others := by
  induction task generalizing shut world others with
  | done a => exact hkeeps
  | act body change ih => exact ih world hkeeps
  | wait w body leaveFirst ih =>
    obtain ⟨hcustody, hlater⟩ := hkeeps
    refine ⟨hcustody, fun shut later others hcustody => ?_⟩
    obtain ⟨hdropped, hbody⟩ := hlater shut later others hcustody
    exact ⟨hleave _ _ _ hdropped, fun refusal answer left hanswer =>
      ih answer (hbody refusal answer left hanswer)⟩

end Task.Keeps

theorem keeps_look_bind
    {f : World (State Wire) Unit → β}
    {next : β → Task Wire Unit α} :
    (Task.look f >>= next).Keeps charge shut world others
      ↔ (next (f world)).Keeps charge shut world others :=
  Iff.rfl

theorem keeps_step_bind
    {f : World (State Wire) Unit → β × World (State Wire) Unit}
    {next : β → Task Wire Unit α} :
    (Task.step f >>= next).Keeps charge shut world others
      ↔ (next (f world).1).Keeps charge shut (f world).2 others :=
  Iff.rfl

/-- Posting a request loses no connection. -/
theorem keeps_request
    (hands : List Grip)
    (on : Live)
    (request : Request)
    (hcustody : Custody shut world.driver (hands ++ others)) :
    (Network.request Wire.network on request).Keeps (staying hands) shut world others := by
  change Custody shut _ (hands ++ others)
  dsimp only
  cases unwritable? request with
  | some fault => exact hcustody
  | none =>
    by_cases hopen : Wire.network.isOpen world.driver.network on.connection = true
    · rw [if_pos hopen]
      refine hcustody.lose ⟨rfl, rfl⟩ rfl rfl rfl fun connection hup => ?_
      by_cases hsame : connection = on.connection
      · exact hsame ▸ hopen
      · exact Wire.line_put_of_ne hsame _ _ ▸ hup
    · rw [if_neg hopen]
      exact hcustody

theorem keeps_outcome
    (hands : List Grip)
    (on : Live)
    (posted : Posted)
    (hcustody : Custody shut world.driver (hands ++ others)) :
    (Network.outcome on posted).Keeps (staying hands) shut world others := by
  cases posted with
  | error fault => exact hcustody
  | ok ticket =>
    refine ⟨hcustody, fun shut later others hcustody => ⟨hcustody, ?_⟩⟩
    intro refusal answer left hanswer
    simp only [Wait.resolve, Option.map_eq_some_iff, Prod.mk.injEq] at hanswer
    obtain ⟨result, -, rfl, rfl⟩ := hanswer
    exact hcustody

theorem keeps_runScript
    (hands : List Grip)
    (on : Live)
    (text : String)
    (hcustody : Custody shut world.driver (hands ++ others)) :
    (Network.runScript Wire.network on text).Keeps (staying hands) shut world others := by
  refine (keeps_request hands on _ hcustody).bind fun posted shut left others hcustody => ?_
  refine (keeps_outcome hands on posted hcustody).bind fun result shut left others hcustody => ?_
  cases result with
  | ok reply => exact hcustody
  | error fault => exact hcustody

theorem keeps_postAll
    (hands : List Grip)
    (on : Live)
    (statements : List Statement)
    (hcustody : Custody shut world.driver (hands ++ others)) :
    (Network.postAll Wire.network on statements).Keeps (staying hands) shut world others := by
  induction statements generalizing shut world others with
  | nil => exact hcustody
  | cons statement rest ih =>
    refine (keeps_request hands on _ hcustody).bind fun posted shut left others hcustody => ?_
    exact (ih hcustody).bind fun _ _ _ _ hcustody => hcustody

theorem keeps_outcomes
    (hands : List Grip)
    (on : Live)
    (posted : List (StatementKind × Posted))
    (hcustody : Custody shut world.driver (hands ++ others)) :
    (Network.outcomes on posted).Keeps (staying hands) shut world others := by
  induction posted generalizing shut world others with
  | nil => exact hcustody
  | cons first rest ih =>
    refine (keeps_outcome hands on first.2 hcustody).bind fun result shut left others hcustody => ?_
    exact (ih hcustody).bind fun _ _ _ _ hcustody => hcustody

theorem keeps_postFrame
    (hands : List Grip)
    (on : Live)
    (framed : Bool)
    (text : String)
    (hcustody : Custody shut world.driver (hands ++ others)) :
    (Network.postFrame Wire.network on framed text).Keeps (staying hands) shut world others := by
  cases framed with
  | false => exact hcustody
  | true => exact (keeps_request hands on _ hcustody).bind fun _ _ _ _ hcustody => hcustody

theorem keeps_frameOutcome
    (hands : List Grip)
    (on : Live)
    (posted : Option Posted)
    (hcustody : Custody shut world.driver (hands ++ others)) :
    (Network.frameOutcome on posted).Keeps (staying hands) shut world others := by
  cases posted with
  | none => exact hcustody
  | some posted =>
    exact (keeps_outcome hands on posted hcustody).bind fun _ _ _ _ hcustody => hcustody

theorem keeps_pipeline
    (hands : List Grip)
    (on : Live)
    (statements : List Statement)
    (framed : Bool)
    (hcustody : Custody shut world.driver (hands ++ others)) :
    (Network.pipeline Wire.network on statements framed).Keeps (staying hands) shut world
      others := by
  refine (keeps_postFrame hands on framed "BEGIN" hcustody).bind fun begun _ _ _ hcustody => ?_
  refine (keeps_postAll hands on statements hcustody).bind fun posted _ _ _ hcustody => ?_
  refine (keeps_postFrame hands on framed "COMMIT" hcustody).bind fun committed _ _ _ hcustody => ?_
  refine (keeps_frameOutcome hands on begun hcustody).bind fun begun _ _ _ hcustody => ?_
  refine (keeps_outcomes hands on posted hcustody).bind fun results _ _ _ hcustody => ?_
  exact (keeps_frameOutcome hands on committed hcustody).bind fun _ _ _ _ hcustody => hcustody

/-- A call that was handed a connection gives it back, however it ends. -/
theorem keeps_scriptOn
    (text : String)
    (hcustody : Custody shut world.driver (.connection live :: others)) :
    (Network.scriptOn Wire.network text live).Keeps (passing [.connection live]) shut world
      others := by
  have hscript := keeps_runScript [.connection live] live text hcustody
  refine (hscript.onDrop fun _ _ _ hcustody => hcustody.checkIn false).bind ?_
  intro result shut left others hcustody
  exact hcustody.checkIn result.isOk

theorem keeps_batchOn
    (statements : List Statement)
    (hcustody : Custody shut world.driver (.connection live :: others)) :
    (Network.batchOn Wire.network statements live).Keeps (passing [.connection live]) shut world
      others := by
  have hpipeline :=
    keeps_pipeline [.connection live] live statements (1 < statements.length) hcustody
  refine (hpipeline.onDrop fun _ _ _ hcustody => hcustody.checkIn false).bind ?_
  intro answers shut left others hcustody
  exact hcustody.checkIn true

/-- A call that begins a transaction gives its connection to it, or back. -/
theorem keeps_beginOn
    (hcustody : Custody shut world.driver (.connection live :: others)) :
    (Network.beginOn Wire.network live).Keeps (beginning live) shut world others := by
  have hscript := keeps_runScript [.connection live] live "BEGIN" hcustody
  refine (hscript.onDrop fun _ _ _ hcustody => hcustody.checkIn false).bind ?_
  intro result shut left others hcustody
  cases result with
  | error e => exact hcustody.checkIn false
  | ok _ => exact hcustody.begin

theorem keeps_sendIn
    (tx : Nat)
    (statements : List Statement)
    (hcustody : Custody shut world.driver (.transaction tx :: others)) :
    (Network.sendIn Wire.network tx statements).Keeps (staying [.transaction tx]) shut world
      others := by
  apply keeps_look_bind.2
  cases world.driver.held.lookup tx with
  | none => exact hcustody
  | some live => exact keeps_pipeline [.transaction tx] live statements false hcustody

theorem keeps_finish
    (command : String)
    (tx : Nat)
    (hcustody : Custody shut world.driver (.transaction tx :: others)) :
    (Network.finish Wire.network command tx).Keeps (passing [.transaction tx]) shut world
      others := by
  apply keeps_look_bind.2
  cases hlookup : world.driver.held.lookup tx with
  | none => exact hcustody.forgetTx hlookup
  | some live =>
    have hscript := keeps_runScript [.transaction tx] live command hcustody
    refine (hscript.onDrop fun _ _ _ hcustody => hcustody.endTx false).bind ?_
    intro result shut left others hcustody
    exact hcustody.endTx result.isOk

/-- A new connection is in the hands of the call that opens it. -/
theorem keeps_openLive
    (hcustody : Custody shut world.driver others) :
    (Network.openLive).Keeps obtaining shut world others := by
  refine ⟨hcustody, fun shut later others hcustody => ⟨hcustody, ?_⟩⟩
  intro refusal result left hresult
  obtain ⟨rfl, fault, rfl⟩ | ⟨rfl, rfl⟩ := resolve_connection hresult
  · exact hcustody
  · exact hcustody.openLine rfl rfl rfl rfl rfl rfl

/-- A call that opens a connection gives its permit back if it fails or is dropped. -/
theorem keeps_opening
    (hcustody : Custody shut world.driver others) :
    (Task.onDrop (changePool Pool.returnPermit) Network.openLive >>= fun opened =>
      match opened with
      | .ok live => return .ok live
      | .error fault => do
          Task.change (changePool Pool.returnPermit)
          return .error (DriverError.connection fault.message)).Keeps obtaining shut world
        others := by
  apply Task.Keeps.bind
  · exact (keeps_openLive hcustody).onDrop fun _ _ _ hcustody =>
      hcustody.changePool (f := Pool.returnPermit) rfl rfl
  · intro result shut left others hcustody
    cases result with
    | ok live => exact hcustody
    | error fault => exact hcustody.changePool rfl rfl

/-- A call that checks a connection out has none in hand until it returns it. -/
theorem keeps_acquire
    (hcustody : Custody shut world.driver others) :
    (Network.acquire Wire.network).Keeps obtaining shut world others := by
  have hsettled : Custody shut (Wire.network.settled world).driver others :=
    hcustody.drift ⟨rfl, rfl⟩ rfl rfl (Passes.settled world).wire
  refine ⟨hsettled, fun shut later others hcustody => ⟨hcustody, ?_⟩⟩
  intro refusal granted left hgranted
  have hclosed : left.driver.pool.closed = later.driver.pool.closed := by
    obtain ⟨rfl, -⟩ | ⟨-, permits, -, rfl⟩ := resolve_permit hgranted
    · rfl
    · rfl
  have hcustody : Custody shut left.driver others := by
    obtain ⟨hpasses, -⟩ := passes_of_permit hgranted
    exact hcustody.drift ⟨hpasses.idle, hclosed⟩ hpasses.held hpasses.nextTx hpasses.wire
  cases granted with
  | error e => exact hcustody
  | ok _ =>
    rcases hsearch : Pool.search (Pool.reusable left.driver.pool.options left.now
      (Wire.network.isOpen left.driver.network)) left.driver.pool.idle
      with ⟨found, remaining, dropped⟩
    have htaken := hcustody.takeIdle hsearch
    apply keeps_step_bind.2
    simp only [Pool.takeIdle, hsearch]
    cases found with
    | some live => exact htaken
    | none => exact keeps_opening htaken

/-- The connections that a pool opens in advance are given to it, or let go if it is closed. -/
theorem keeps_openIdle
    (count : Nat)
    (hcustody : Custody shut world.driver others) :
    (Network.openIdle Wire.network count).Keeps (passing []) shut world others := by
  induction count generalizing shut world others with
  | zero => exact hcustody
  | succ count ih =>
    refine (keeps_openLive hcustody).bind fun result shut left others hcustody => ?_
    cases result with
    | error fault => exact hcustody
    | ok live => exact ih hcustody.release

end Calls
end Postgres
end QueryBatch
