import QueryBatch.Proofs.Batch.Work
import QueryBatch.Proofs.Postgres.Line

/-!
# A network to a server that may do anything

A `Wire` is a network whose connections are lines. While a call waits, any moves may happen on any
lines, and the wait may take any time or never end: what happens is written down in advance, one
`Turn` for each wait, so a statement about every wire covers every server and every fate of the
connections. Between two moments a wire only drifts: `Wire.Drifts`.
-/

namespace QueryBatch
namespace Postgres

/-- What happens while a call waits once. -/
structure Turn where
  moves : List (Nat × Line.Move) := []
  /-- How long the wait takes; none if it never ends. -/
  ms : Option Nat := none
  /-- Why no connection can be opened, if the wait is for one. -/
  refusal : Option Fault := none

/-- Lines, and what will happen on them. -/
structure Wire where
  line : Nat → Line := fun _ => {}
  /-- The number of lines that were opened; they have the numbers below. -/
  opened : Nat := 0
  future : List Turn := []

variable {S : Type}

section Defs

namespace Wire

def put (connection : Nat) (line : Line) (wire : Wire) : Wire :=
  { wire with line := Function.update wire.line connection line }

def move (wire : Wire) (on : Nat × Line.Move) : Wire :=
  if on.1 < wire.opened then wire.put on.1 ((wire.line on.1).step on.2) else wire

def moveAll (moves : List (Nat × Line.Move)) (wire : Wire) : Wire := moves.foldl move wire

/-- The next turn, and the wire after its moves. -/
def turn (wire : Wire) : Turn × Wire :=
  match wire.future with
  | [] => ({}, wire)
  | turn :: rest => (turn, moveAll turn.moves { wire with future := rest })

/-- Wait as the next turn says. -/
def takeTurn : Work Wire S Turn := do
  let turn ← Work.step fun world =>
    (world.driver.turn.1, { world with driver := world.driver.turn.2 })
  match turn.ms with
  | none => Work.never
  | some ms =>
      Work.sleep ms
      return turn

def connect : Work Wire S (Except Fault Nat) := do
  let turn ← takeTurn
  match turn.refusal with
  | some fault => return .error fault
  | none => Work.step fun world =>
      (.ok world.driver.opened,
        { world with driver := { world.driver with opened := world.driver.opened + 1 } })

/-- Wait until the client learns of the request at a position. -/
def await (connection position : Nat) : Work Wire S Result := do
  let _ ← takeTurn
  match ← Work.look fun world => (world.driver.line connection).reply? position with
  | some result => return result
  | none => Work.never

/-- The network. The ticket of a request is its position on its line. -/
def network : Network Wire where
  connect := connect
  isOpen wire connection := (wire.line connection).up
  post connection _ request wire :=
    ((wire.line connection).posted.length,
      wire.put connection ((wire.line connection).post [request]))
  await := await
  leave connection wire := wire.move (connection, .lose)
  settle world := { world with driver := world.driver.turn.2 }

/-- A wire some time later, when its users did nothing meanwhile. -/
structure Drifts (wire later : Wire) : Prop where
  line : ∀ connection, (wire.line connection).Grows [] (later.line connection)
  opened : later.opened = wire.opened
  beyond : ∀ connection, wire.opened ≤ connection → later.line connection = wire.line connection

end Wire

/-- What a wait may end with in a world, and the world then. A connection is opened unless it is
refused. -/
def Wait.resolve (refusal : Option Fault) (world : World (State Wire) S) :
    (w : Wait) → Option (w.Answer × World (State Wire) S)
  | .permit =>
      match world.driver.pool.requestPermit with
      | .refused => some (.error (.connection "connection pool is closed"), world)
      | .waiting => none
      | .granted pool => some (.ok (), changePool (fun _ => pool) world)
  | .connection =>
      match refusal with
      | some fault => some (.error fault, world)
      | none => some (.ok world.driver.network.opened,
          changeNetwork (fun wire => { wire with opened := wire.opened + 1 }) world)
  | .reply on position =>
      ((world.driver.network.line on).reply? position).map fun result => (result, world)

/-- A world some time later, with the same idle connections and the same transactions. -/
structure Passes (world later : World (State Wire) S) : Prop where
  openTx : later.openTx = world.openTx
  idle : later.driver.pool.idle = world.driver.pool.idle
  held : later.driver.held = world.driver.held
  nextTx : later.driver.nextTx = world.driver.nextTx
  wire : world.driver.network.Drifts later.driver.network

end Defs

namespace Wire

@[simp]
theorem line_put_self
    (connection : Nat)
    (line : Line)
    (wire : Wire) :
    (wire.put connection line).line connection = line :=
  Function.update_self ..

theorem line_put_of_ne
    {connection other : Nat}
    (hne : other ≠ connection)
    (line : Line)
    (wire : Wire) :
    (wire.put connection line).line other = wire.line other :=
  Function.update_of_ne hne ..

@[simp]
theorem opened_put
    (connection : Nat)
    (line : Line)
    (wire : Wire) :
    (wire.put connection line).opened = wire.opened :=
  rfl

namespace Drifts

variable {wire later latest : Wire}

protected theorem refl
    (wire : Wire) :
    wire.Drifts wire :=
  ⟨fun _ => .refl _, rfl, fun _ _ => rfl⟩

protected theorem trans
    (hfirst : wire.Drifts later)
    (hsecond : later.Drifts latest) :
    wire.Drifts latest where
  line connection := (hfirst.line connection).trans_still (hsecond.line connection)
  opened := hsecond.opened.trans hfirst.opened
  beyond connection hbeyond := by
    rw [hsecond.beyond connection (hfirst.opened ▸ hbeyond), hfirst.beyond connection hbeyond]

theorem move
    (wire : Wire)
    (on : Nat × Line.Move) :
    wire.Drifts (wire.move on) := by
  unfold Wire.move
  by_cases hopened : on.1 < wire.opened
  · rw [if_pos hopened]
    refine ⟨fun connection => ?_, rfl, fun connection hbeyond => ?_⟩
    · by_cases heq : connection = on.1
      · subst heq
        rw [line_put_self]
        exact .step _ _
      · rw [line_put_of_ne heq]
        exact .refl _
    · exact line_put_of_ne (by omega) _ _
  · rw [if_neg hopened]
    exact .refl wire

theorem moveAll
    (moves : List (Nat × Line.Move))
    (wire : Wire) :
    wire.Drifts (wire.moveAll moves) := by
  induction moves generalizing wire with
  | nil => exact .refl wire
  | cons first rest ih => exact (Drifts.move wire first).trans (ih (wire.move first))

theorem turn
    (wire : Wire) :
    wire.Drifts wire.turn.2 := by
  unfold Wire.turn
  cases hfuture : wire.future with
  | nil => exact .refl wire
  | cons turn rest =>
      have hlines : wire.Drifts { wire with future := rest } :=
        ⟨fun _ => .refl _, rfl, fun _ _ => rfl⟩
      exact hlines.trans (.moveAll turn.moves _)

end Drifts
end Wire

namespace Passes

variable {world later latest : World (State Wire) S}

protected theorem refl
    (world : World (State Wire) S) :
    Passes world world :=
  ⟨rfl, rfl, rfl, rfl, .refl _⟩

protected theorem trans
    (hfirst : Passes world later)
    (hsecond : Passes later latest) :
    Passes world latest :=
  ⟨hsecond.openTx.trans hfirst.openTx, hsecond.idle.trans hfirst.idle,
    hsecond.held.trans hfirst.held, hsecond.nextTx.trans hfirst.nextTx, hfirst.wire.trans hsecond.wire⟩

theorem of_driver
    (hdriver : later.driver = world.driver)
    (hopen : later.openTx = world.openTx) :
    Passes world later := by
  refine ⟨hopen, by rw [hdriver], by rw [hdriver], by rw [hdriver], ?_⟩
  rw [hdriver]
  exact .refl _

theorem changeNetwork
    {f : Wire → Wire}
    (hf : world.driver.network.Drifts (f world.driver.network)) :
    Passes world (changeNetwork f world) :=
  ⟨rfl, rfl, rfl, rfl, hf⟩

theorem changePool
    {f : Pool → Pool}
    (hf : (f world.driver.pool).idle = world.driver.pool.idle) :
    Passes world (changePool f world) :=
  ⟨rfl, hf, rfl, rfl, .refl _⟩

theorem settled
    (world : World (State Wire) S) :
    Passes world (Wire.network.settled world) :=
  ⟨rfl, rfl, rfl, rfl, .turn _⟩

theorem leave
    (connection : Nat)
    (world : World (State Wire) S) :
    Passes world (Postgres.changeNetwork (Wire.network.leave connection) world) :=
  changeNetwork (.move _ _)

theorem leaveAll
    (entries : List Idle)
    (world : World (State Wire) S) :
    Passes world (Wire.network.leaveAll entries world) := by
  induction entries generalizing world with
  | nil => exact .refl world
  | cons first rest ih => exact (leave first.live.connection world).trans (ih _)

end Passes

section Waits

variable {world left : World (State Wire) S} {refusal : Option Fault}

/-- What asking for a permit comes to. -/
theorem resolve_permit
    {granted : Except DriverError Unit}
    (hgranted : Wait.resolve refusal world .permit = some (granted, left)) :
    (left = world ∧ granted = .error (.connection "connection pool is closed")) ∨
      (granted = .ok () ∧ ∃ permits, world.driver.pool.permits = permits + 1 ∧
        left = changePool (fun pool => { pool with permits := permits }) world) := by
  unfold Wait.resolve Pool.requestPermit at hgranted
  dsimp only at hgranted
  by_cases hclosed : world.driver.pool.closed = true
  · simp only [hclosed, if_true, Option.some.injEq, Prod.mk.injEq] at hgranted
    exact .inl ⟨hgranted.2.symm, hgranted.1.symm⟩
  · rw [if_neg hclosed] at hgranted
    cases hpermits : world.driver.pool.permits with
    | zero => simp [hpermits] at hgranted
    | succ permits =>
        rw [hpermits] at hgranted
        simp only [Option.some.injEq, Prod.mk.injEq] at hgranted
        obtain ⟨rfl, rfl⟩ := hgranted
        exact .inr ⟨rfl, permits, rfl, rfl⟩

/-- What opening a connection comes to. -/
theorem resolve_connection
    {result : Except Fault Nat}
    (hresult : Wait.resolve refusal world .connection = some (result, left)) :
    (left = world ∧ ∃ fault, result = .error fault) ∨
      (result = .ok world.driver.network.opened ∧
        left = changeNetwork (fun wire => { wire with opened := wire.opened + 1 }) world) := by
  cases refusal with
  | some fault =>
      simp only [Wait.resolve, Option.some.injEq, Prod.mk.injEq] at hresult
      obtain ⟨rfl, rfl⟩ := hresult
      exact .inl ⟨rfl, fault, rfl⟩
  | none =>
      simp only [Wait.resolve, Option.some.injEq, Prod.mk.injEq] at hresult
      obtain ⟨rfl, rfl⟩ := hresult
      exact .inr ⟨rfl, rfl⟩

end Waits

end Postgres
end QueryBatch
