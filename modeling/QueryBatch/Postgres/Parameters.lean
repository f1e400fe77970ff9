import QueryBatch.Postgres.Pool
import QueryBatch.Text.Quoted

/-!
# Where connections lead

What a driver has to know to open a connection, and a pool together with it. Showing such a pool
tells neither user nor password.
-/

namespace QueryBatch
namespace Postgres

/-- Where a server listens. -/
inductive Address
  | tcp (host : String)
  | socket (path : String)
  deriving DecidableEq, Repr, Inhabited

/-- A host as an address: a path is that of a socket. -/
def Address.ofHost (host : String) : Address :=
  if host.toList.head? = some '/' then .socket host else .tcp host

/-- The address as shown to a person. -/
def Address.shown : Address → String
  | .tcp host => "Tcp(" ++ Text.quoted host ++ ")"
  | .socket path => "Unix(" ++ Text.quoted path ++ ")"

/-- Whether connections are encrypted. -/
inductive Tls
  | disabled
  | required
  deriving DecidableEq, Repr, Inhabited

/-- The name of a choice. -/
def Tls.name : Tls → String
  | .disabled => "Disabled"
  | .required => "Required"

/-- The choice as a parameter of a connection. -/
def Tls.sslMode : Tls → String
  | .disabled => "disable"
  | .required => "require"

/-- What it takes to open a connection. -/
structure Parameters where
  address : Address
  port : UInt16
  user : String
  password : String
  database : String
  tls : Tls
  /-- Options that the server reads when the connection starts. -/
  options : String
  deriving DecidableEq, Inhabited

/-- A span of milliseconds as shown to a person: seconds with a fraction if needed, else
milliseconds, else nothing. -/
def shownSpan (ms : Nat) : String :=
  let fraction := ms % 1000
  if 1000 ≤ ms then
    if fraction = 0 then toString (ms / 1000) ++ "s"
    else
      let digits := ['0' , '0' , '0'] ++ Nat.toDigits 10 fraction
      let kept := ((digits.drop (digits.length - 3)).reverse.dropWhile (· = '0')).reverse
      toString (ms / 1000) ++ "." ++ String.ofList kept ++ "s"
  else if 0 < ms then toString ms ++ "ms"
  else "0ns"

/-- A limit as shown to a person. -/
def shownLimit : Option Nat → String
  | none => "None"
  | some ms => "Some(" ++ shownSpan ms ++ ")"

/-- Options as shown to a person. -/
def PoolOptions.shown (options : PoolOptions) : String :=
  "PoolOptions \x7b max_connections: " ++ toString options.maxConnections
    ++ ", min_connections: " ++ toString options.minConnections
    ++ ", max_lifetime: " ++ shownLimit options.maxLifetime
    ++ ", idle_timeout: " ++ shownLimit options.idleTimeout ++ " \x7d"

/-- A pool and where its connections lead. -/
structure ServerPool where
  parameters : Parameters
  pool : Pool

namespace ServerPool

/-- A pool that opens its connections when they are needed. -/
def new (parameters : Parameters) (options : PoolOptions) : ServerPool :=
  ⟨parameters, Pool.new options⟩

/-- The pool as shown to a person. -/
def shown (p : ServerPool) : String :=
  "PostgresPool(Pool \x7b hosts: [" ++ p.parameters.address.shown ++ "], dbname: Some("
    ++ Text.quoted p.parameters.database ++ "), tls: " ++ p.parameters.tls.name ++ ", options: "
    ++ p.pool.options.shown ++ ", idle: " ++ toString p.pool.idle.length ++ ", .. \x7d)"

end ServerPool
end Postgres
end QueryBatch
