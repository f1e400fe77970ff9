import QueryBatch.Proofs.Postgres.Wire

/-!
# Who uses which connection

A `Stake` is a connection that somebody has checked out, with its line at some moment since when
nobody else has posted on it. `Sound` says that the idle connections and the stakes are all
different, that the idle ones are quiet, and that the transactions in progress are exactly the
stakes of transactions.

There is one lemma for each thing that the driver does to a state. The stakes of connections that
were let go are kept: they show that such a connection never comes back.
-/

namespace QueryBatch
namespace Postgres

/-- A connection that is checked out. -/
structure Stake where
  /-- The transaction that holds it, if one does. -/
  tx? : Option Nat
  live : Live
  /-- The line at some moment since when only the holder posted on it. -/
  line : Line

variable {S : Type}

section Defs

/-- The transaction and its connection. -/
def Stake.claim? (stake : Stake) : Option (Nat × Live) := stake.tx?.map fun tx => (tx, stake.live)

/-- The connections that are idle or checked out. -/
def connections (state : State Wire) (stakes : List Stake) : List Nat :=
  state.pool.idle.map (fun entry => entry.live.connection)
    ++ stakes.map (fun stake => stake.live.connection)

/-- The stakes account for a state. -/
structure Sound (state : State Wire) (stakes : List Stake) : Prop where
  distinct : (connections state stakes).Nodup
  opened : ∀ connection ∈ connections state stakes, connection < state.network.opened
  beyond : ∀ connection, state.network.opened ≤ connection → state.network.line connection = {}
  quiet : ∀ entry ∈ state.pool.idle, (state.network.line entry.live.connection).Quiet
  held : state.held.Perm (stakes.filterMap Stake.claim?)
  numbers : (state.held.map Prod.fst).Nodup
  below : ∀ entry ∈ state.held, entry.1 < state.nextTx
  grown : ∀ stake ∈ stakes, stake.line.Grows [] (state.network.line stake.live.connection)

end Defs

section Lists

variable {α : Type}

/-- With different keys, an entry is found under its key. -/
theorem lookup_of_mem
    {entries : List (Nat × α)}
    (hkeys : (entries.map Prod.fst).Nodup)
    {key : Nat}
    {a : α}
    (hmem : (key, a) ∈ entries) :
    entries.lookup key = some a := by
  induction entries with
  | nil => cases hmem
  | cons first rest ih =>
      obtain ⟨other, b⟩ := first
      obtain ⟨hnew, hrest⟩ := List.nodup_cons.mp hkeys
      rcases List.mem_cons.mp hmem with heq | hmem
      · cases heq
        simp
      · have hne : (key == other) = false := by
          refine beq_eq_false_iff_ne.mpr fun heq => hnew ?_
          exact List.mem_map.mpr ⟨(key, a), hmem, heq⟩
        simpa only [List.lookup_cons, hne] using ih hrest hmem

end Lists

namespace Sound

variable {state later : State Wire} {stakes others : List Stake} {stake : Stake}

theorem perm
    (hsound : Sound state stakes)
    (hperm : stakes.Perm others) :
    Sound state others where
  distinct := ((hperm.map _).append_left _).nodup_iff.mp hsound.distinct
  opened connection hmem :=
    hsound.opened connection (((hperm.map _).append_left _).mem_iff.mpr hmem)
  beyond := hsound.beyond
  quiet := hsound.quiet
  held := hsound.held.trans (hperm.filterMap _)
  numbers := hsound.numbers
  below := hsound.below
  grown stake hmem := hsound.grown stake (hperm.mem_iff.mpr hmem)

/-- A state stays accounted for while its wire drifts. -/
theorem drift
    (hsound : Sound state stakes)
    (hidle : later.pool.idle = state.pool.idle)
    (hheld : later.held = state.held)
    (hnext : later.nextTx = state.nextTx)
    (hwire : state.network.Drifts later.network) :
    Sound later stakes where
  distinct := by simpa only [connections, hidle] using hsound.distinct
  opened connection hmem := by
    rw [hwire.opened]
    exact hsound.opened connection (by simpa only [connections, hidle] using hmem)
  beyond connection hbeyond := by
    rw [hwire.opened] at hbeyond
    rw [hwire.beyond connection hbeyond, hsound.beyond connection hbeyond]
  quiet entry hmem := (hsound.quiet entry (hidle ▸ hmem)).still (hwire.line _)
  held := hheld ▸ hsound.held
  numbers := hheld ▸ hsound.numbers
  below entry hmem := by
    rw [hnext]
    exact hsound.below entry (hheld ▸ hmem)
  grown stake hmem := (hsound.grown stake hmem).trans_still (hwire.line _)

theorem passes
    {world later : World (State Wire) S}
    (hsound : Sound world.driver stakes)
    (hpasses : Passes world later) :
    Sound later.driver stakes :=
  hsound.drift hpasses.idle hpasses.held hpasses.nextTx hpasses.wire

/-- Nobody else uses the connection of a stake. -/
theorem alone
    (hsound : Sound state (stake :: others)) :
    (∀ entry ∈ state.pool.idle, entry.live.connection ≠ stake.live.connection) ∧
      (∀ other ∈ others, other.live.connection ≠ stake.live.connection) ∧
      stake.live.connection < state.network.opened := by
  have hdistinct := hsound.distinct
  simp only [connections, List.map_cons] at hdistinct
  obtain ⟨-, hothers, hidle⟩ := List.nodup_append.mp hdistinct
  refine ⟨fun entry hmem => ?_, fun other hmem heq => ?_, ?_⟩
  · exact hidle _ (List.mem_map_of_mem hmem) _ List.mem_cons_self
  · exact (List.nodup_cons.mp hothers).1 (heq ▸ List.mem_map_of_mem hmem)
  · exact hsound.opened _ (by simp [connections])

/-- The line of a stake may be brought up to date. -/
theorem refresh
    (hsound : Sound state (stake :: others)) :
    Sound state ({ stake with line := state.network.line stake.live.connection } :: others) where
  distinct := hsound.distinct
  opened := hsound.opened
  beyond := hsound.beyond
  quiet := hsound.quiet
  held := hsound.held
  numbers := hsound.numbers
  below := hsound.below
  grown other hmem := by
    rcases List.mem_cons.mp hmem with rfl | hmem
    · exact .refl _
    · exact hsound.grown other (List.mem_cons_of_mem _ hmem)

/-- The holder of a connection replaces its line. -/
theorem put
    (hsound : Sound state (stake :: others))
    (line : Line) :
    Sound { state with network := state.network.put stake.live.connection line }
      ({ stake with line := line } :: others) := by
  obtain ⟨hidle, hothers, hopened⟩ := hsound.alone
  refine ⟨hsound.distinct, hsound.opened, fun connection hbeyond => ?_, fun entry hmem => ?_,
    hsound.held, hsound.numbers, hsound.below, fun other hmem => ?_⟩
  · have hne : connection ≠ stake.live.connection := by
      have : state.network.opened ≤ connection := hbeyond
      omega
    simpa [Wire.line_put_of_ne hne] using hsound.beyond connection hbeyond
  · simpa [Wire.line_put_of_ne (hidle entry hmem)] using hsound.quiet entry hmem
  · rcases List.mem_cons.mp hmem with rfl | hmem
    · simpa using Line.Grows.refl line
    · simpa [Wire.line_put_of_ne (hothers other hmem)]
        using hsound.grown other (List.mem_cons_of_mem _ hmem)

/-- A connection without a transaction is given up. -/
theorem forget
    (hsound : Sound state (stake :: others))
    (htx : stake.tx? = none) :
    Sound state others where
  distinct := by
    refine hsound.distinct.sublist ?_
    exact (List.Sublist.refl _).append (List.sublist_cons_self _ _)
  opened connection hmem := by
    apply hsound.opened
    simp only [connections, List.map_cons, List.mem_append, List.mem_cons] at hmem ⊢
    tauto
  beyond := hsound.beyond
  quiet := hsound.quiet
  held := by simpa [Stake.claim?, htx] using hsound.held
  numbers := hsound.numbers
  below := hsound.below
  grown other hmem := hsound.grown other (List.mem_cons_of_mem _ hmem)

/-- Some idle connections are dropped. -/
theorem dropIdle
    (hsound : Sound state stakes)
    (kept : List Idle)
    (hkept : kept.Sublist state.pool.idle) :
    Sound { state with pool := { state.pool with idle := kept } } stakes where
  distinct := hsound.distinct.sublist ((hkept.map _).append (List.Sublist.refl _))
  opened connection hmem := by
    refine hsound.opened connection ?_
    exact ((hkept.map _).append (List.Sublist.refl _)).subset hmem
  beyond := hsound.beyond
  quiet entry hmem := hsound.quiet entry (hkept.subset hmem)
  held := hsound.held
  numbers := hsound.numbers
  below := hsound.below
  grown := hsound.grown

/-- An idle connection is checked out, and those before it are dropped. -/
theorem take
    (hsound : Sound state stakes)
    {dropped left : List Idle}
    {entry : Idle}
    (hidle : state.pool.idle = dropped ++ entry :: left) :
    Sound { state with pool := { state.pool with idle := left } }
      (⟨none, entry.live, state.network.line entry.live.connection⟩ :: stakes) := by
  have hmoved : (connections { state with pool := { state.pool with idle := entry :: left } }
      stakes).Perm (connections { state with pool := { state.pool with idle := left } }
        (⟨none, entry.live, state.network.line entry.live.connection⟩ :: stakes)) := by
    simp only [connections, List.map_cons]
    exact List.perm_middle.symm
  have hsound := hsound.dropIdle (entry :: left) (by rw [hidle]; simp)
  refine ⟨hmoved.nodup_iff.mp hsound.distinct,
    fun connection hmem => hsound.opened connection (hmoved.mem_iff.mpr hmem), hsound.beyond,
    fun other hmem => hsound.quiet other (List.mem_cons_of_mem _ hmem), ?_, hsound.numbers,
    hsound.below, fun other hmem => ?_⟩
  · simpa [List.filterMap_cons, Stake.claim?] using hsound.held
  · rcases List.mem_cons.mp hmem with rfl | hmem
    · exact .refl _
    · exact hsound.grown other hmem

/-- A connection is put back between requests. -/
theorem giveBack
    (hsound : Sound state (stake :: others))
    (htx : stake.tx? = none)
    (hquiet : (state.network.line stake.live.connection).Quiet)
    (now : Nat) :
    Sound { state with pool := { state.pool with idle := ⟨stake.live, now⟩ :: state.pool.idle } }
      others := by
  have hmoved : (connections { state with pool :=
      { state.pool with idle := ⟨stake.live, now⟩ :: state.pool.idle } } others).Perm
        (connections state (stake :: others)) := by
    simp only [connections, List.map_cons]
    exact List.perm_middle.symm
  have hforgot := hsound.forget htx
  refine ⟨hmoved.nodup_iff.mpr hsound.distinct,
    fun connection hmem => hsound.opened connection (hmoved.mem_iff.mp hmem), hforgot.beyond,
    fun entry hmem => ?_, hforgot.held, hforgot.numbers, hforgot.below, hforgot.grown⟩
  rcases List.mem_cons.mp hmem with rfl | hmem
  · exact hquiet
  · exact hforgot.quiet entry hmem

/-- A new connection is opened and checked out. -/
theorem openLine
    (hsound : Sound state stakes)
    (time : Nat) :
    Sound { state with network := { state.network with opened := state.network.opened + 1 } }
      (⟨none, ⟨state.network.opened, time⟩, {}⟩ :: stakes) := by
  have hnew : (connections state (⟨none, ⟨state.network.opened, time⟩, {}⟩ :: stakes)).Perm
      (state.network.opened :: connections state stakes) := by
    simp only [connections, List.map_cons]
    exact List.perm_middle
  have hblank := hsound.beyond _ le_rfl
  refine ⟨hnew.nodup_iff.mpr (List.nodup_cons.mpr ⟨fun hmem => ?_, hsound.distinct⟩),
    fun connection hmem => ?_, fun connection hbeyond => ?_, hsound.quiet, ?_, hsound.numbers,
    hsound.below, fun other hmem => ?_⟩
  · exact lt_irrefl _ (hsound.opened _ hmem)
  · rcases List.mem_cons.mp (hnew.mem_iff.mp hmem) with rfl | hmem
    · exact Nat.lt_succ_self _
    · exact Nat.lt_succ_of_lt (hsound.opened _ hmem)
  · exact hsound.beyond connection (Nat.le_of_succ_le hbeyond)
  · simpa [List.filterMap_cons, Stake.claim?] using hsound.held
  · rcases List.mem_cons.mp hmem with rfl | hmem
    · simpa [hblank] using Line.Grows.refl {}
    · exact hsound.grown other hmem

/-- A transaction is begun on a connection. -/
theorem begin
    (hsound : Sound state (stake :: others))
    (htx : stake.tx? = none) :
    Sound { state with
        held := (state.nextTx, stake.live) :: state.held
        nextTx := state.nextTx + 1 }
      ({ stake with tx? := some state.nextTx } :: others) := by
  refine ⟨hsound.distinct, hsound.opened, hsound.beyond, hsound.quiet, ?_, ?_, fun entry hmem => ?_,
    fun other hmem => ?_⟩
  · have hheld : state.held.Perm (others.filterMap Stake.claim?) := by
      simpa [Stake.claim?, htx] using hsound.held
    simpa [Stake.claim?] using hheld
  · refine List.nodup_cons.mpr ⟨fun hmem => ?_, hsound.numbers⟩
    obtain ⟨entry, hentry, hnumber⟩ := List.mem_map.mp hmem
    have hlt := hsound.below entry hentry
    simp only [hnumber] at hlt
    omega
  · rcases List.mem_cons.mp hmem with rfl | hmem
    · exact Nat.lt_succ_self _
    · exact Nat.lt_succ_of_lt (hsound.below entry hmem)
  · rcases List.mem_cons.mp hmem with rfl | hmem
    · exact hsound.grown stake List.mem_cons_self
    · exact hsound.grown other (List.mem_cons_of_mem _ hmem)

/-- A transaction is found with its connection. -/
theorem lookup
    (hsound : Sound state (stake :: others))
    {tx : Nat}
    (htx : stake.tx? = some tx) :
    state.held.lookup tx = some stake.live := by
  apply lookup_of_mem hsound.numbers
  apply hsound.held.mem_iff.mpr
  simp [Stake.claim?, htx]

/-- A transaction lets its connection go. -/
theorem leaveTx
    (hsound : Sound state (stake :: others))
    {tx : Nat}
    (htx : stake.tx? = some tx) :
    Sound { state with held := state.held.filter (·.1 ≠ tx) }
      ({ stake with tx? := none } :: others) := by
  have hheld : state.held.Perm ((tx, stake.live) :: others.filterMap Stake.claim?) := by
    simpa [Stake.claim?, htx] using hsound.held
  have hkeys := (hheld.map Prod.fst).nodup_iff.mp hsound.numbers
  have hrest : ∀ entry ∈ others.filterMap Stake.claim?, entry.1 ≠ tx := by
    intro entry hmem heq
    exact (List.nodup_cons.mp hkeys).1 (List.mem_map.mpr ⟨entry, hmem, heq⟩)
  refine ⟨hsound.distinct, hsound.opened, hsound.beyond, hsound.quiet, ?_, ?_, fun entry hmem => ?_,
    fun other hmem => ?_⟩
  · have hfiltered := hheld.filter (fun entry : Nat × Live => decide (entry.1 ≠ tx))
    have hsame : (others.filterMap Stake.claim?).filter
        (fun entry : Nat × Live => decide (entry.1 ≠ tx)) = others.filterMap Stake.claim? :=
      List.filter_eq_self.mpr fun entry hmem => decide_eq_true (hrest entry hmem)
    rw [List.filter_cons_of_neg (by simp), hsame] at hfiltered
    simpa [List.filterMap_cons, Stake.claim?] using hfiltered
  · exact hsound.numbers.sublist (List.filter_sublist.map _)
  · exact hsound.below entry (List.mem_of_mem_filter hmem)
  · rcases List.mem_cons.mp hmem with rfl | hmem
    · exact hsound.grown stake List.mem_cons_self
    · exact hsound.grown other (List.mem_cons_of_mem _ hmem)

end Sound
end Postgres
end QueryBatch
