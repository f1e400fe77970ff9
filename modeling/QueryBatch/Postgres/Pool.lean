/-!
# Pools of connections

A pool keeps connections that nobody uses and hands out permits, one for each connection in use.
The connection released last is reused first. One that is too old, was unused for too long or has
been closed is dropped when its turn comes. Closing a pool is final: nothing is handed out or taken
back any more.
-/

namespace QueryBatch
namespace Postgres

/-- The size of a pool and the time that its connections last, in milliseconds. -/
structure PoolOptions where
  maxConnections : Nat := 10
  /-- Connections opened in advance. -/
  minConnections : Nat := 0
  /-- The age from which a connection is not reused. -/
  maxLifetime : Option Nat := none
  /-- The time without use from which a connection is not reused. -/
  idleTimeout : Option Nat := none
  deriving DecidableEq, Repr, Inhabited

/-- A connection, and when it was opened. -/
structure Live where
  connection : Nat
  opened : Nat
  deriving DecidableEq, Repr, Inhabited

/-- A connection that nobody uses, and since when. -/
structure Idle where
  live : Live
  since : Nat
  deriving DecidableEq, Repr, Inhabited

/-- A pool. -/
structure Pool where
  options : PoolOptions
  /-- The connections that nobody uses, the one released last first. -/
  idle : List Idle
  /-- The permits that nobody holds. -/
  permits : Nat
  closed : Bool
  deriving DecidableEq, Repr, Inhabited

/-- Whether a span of time is below a limit, if there is one. -/
def below (limit : Option Nat) (span : Nat) : Bool :=
  match limit with
  | none => true
  | some limit => span < limit

namespace Pool

/-- A pool that was not used yet. -/
def new (options : PoolOptions) : Pool :=
  { options := options, idle := [], permits := options.maxConnections, closed := false }

/-- What comes of asking for a permit. -/
inductive Admission
  | granted (pool : Pool)
  /-- All permits are in use. -/
  | waiting
  | refused
  deriving DecidableEq, Repr

/-- Ask for a permit. -/
def requestPermit (pool : Pool) : Admission :=
  if pool.closed then .refused
  else
    match pool.permits with
    | 0 => .waiting
    | n + 1 => .granted { pool with permits := n }

/-- Give a permit back. -/
def returnPermit (pool : Pool) : Pool := { pool with permits := pool.permits + 1 }

/-- Whether an idle connection may be used again. -/
def reusable (options : PoolOptions) (now : Nat) (isOpen : Nat → Bool) (entry : Idle) : Bool :=
  below options.maxLifetime (now - entry.live.opened)
    && below options.idleTimeout (now - entry.since)
    && isOpen entry.live.connection

/-- The first of some idle connections that may be used again, what is left after it, and those
before it. -/
def search (usable : Idle → Bool) : List Idle → Option Live × List Idle × List Idle
  | [] => (none, [], [])
  | entry :: rest =>
      if usable entry then (some entry.live, rest, [])
      else
        let (found, left, dropped) := search usable rest
        (found, left, entry :: dropped)

/-- Take an idle connection that may be used again, if there is one, and answer it with the pool
and the connections that were dropped on the way. -/
def takeIdle (pool : Pool) (now : Nat) (isOpen : Nat → Bool) :
    Option Live × Pool × List Idle :=
  let (found, left, dropped) := search (reusable pool.options now isOpen) pool.idle
  (found, { pool with idle := left }, dropped)

/-- Put a connection back, and say whether it was kept. -/
def release (pool : Pool) (now : Nat) (isOpen : Nat → Bool) (live : Live) : Bool × Pool :=
  if pool.closed || !isOpen live.connection then (false, pool)
  else (true, { pool with idle := ⟨live, now⟩ :: pool.idle })

/-- Close the pool and answer the connections that were idle. -/
def close (pool : Pool) : Pool × List Idle :=
  ({ pool with idle := [], closed := true }, pool.idle)

end Pool
end Postgres
end QueryBatch
