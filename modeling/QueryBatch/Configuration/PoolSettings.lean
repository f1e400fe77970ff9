import QueryBatch.Json.Record
import QueryBatch.Postgres.Pool

/-!
# Settings of the pool of connections

What a configuration says about the pool. Every part has a value of its own where nothing is said;
for the two spans of time this is not the same as no limit, which is written as null.
-/

namespace QueryBatch
namespace Configuration

open Json.Reader (Shape defaultField)

/-- Settings of the pool; spans of time are in seconds. -/
structure PoolSettings where
  maxConnections : UInt32 := 10
  minConnections : UInt32 := 0
  maxLifetime : Option UInt64 := some 3600
  idleTimeout : Option UInt64 := some 1800
  deriving DecidableEq, Inhabited

/-- Why settings of a pool cannot be used. -/
inductive PoolFault
  | noConnections
  | minAboveMax
  deriving DecidableEq, Repr

/-- The wording of such a fault. -/
def PoolFault.message : PoolFault → String
  | .noConnections => "max connections must be at least 1"
  | .minAboveMax => "min connections cannot exceed max connections"

namespace PoolSettings

/-- Whether nothing but what holds anyway is said. -/
def isDefault (settings : PoolSettings) : Bool := settings = {}

/-- Check the bounds. -/
def validate (settings : PoolSettings) : Except PoolFault Unit :=
  if settings.maxConnections = 0 then .error .noConnections
  else if settings.maxConnections < settings.minConnections then .error .minAboveMax
  else .ok ()

/-- The options for a pool. -/
def options (settings : PoolSettings) : Postgres.PoolOptions where
  maxConnections := settings.maxConnections.toNat
  minConnections := settings.minConnections.toNat
  maxLifetime := settings.maxLifetime.map fun s => s.toNat * 1000
  idleTimeout := settings.idleTimeout.map fun s => s.toNat * 1000

/-- A number, or the word for its absence, as shown to a person. -/
def shownSpan : Option UInt64 → String
  | none => "None"
  | some n => "Some(" ++ toString n.toNat ++ ")"

/-- The settings as shown to a person. -/
def shown (settings : PoolSettings) : String :=
  "PoolSettings \x7b max_connections: " ++ toString settings.maxConnections.toNat
    ++ ", min_connections: " ++ toString settings.minConnections.toNat
    ++ ", max_lifetime: " ++ shownSpan settings.maxLifetime
    ++ ", idle_timeout: " ++ shownSpan settings.idleTimeout ++ " \x7d"

/-- The settings in JSON. -/
def toJson (settings : PoolSettings) : Json :=
  .object
    [("maxConnections", .nat settings.maxConnections.toNat),
      ("minConnections", .nat settings.minConnections.toNat),
      ("maxLifetime", Json.ofOption (fun n => .nat n.toNat) settings.maxLifetime),
      ("idleTimeout", Json.ofOption (fun n => .nat n.toNat) settings.idleTimeout)]

/-- Read a number of connections. -/
def readCount : Json.Reader UInt32 := UInt32.ofNat <$> Json.Reader.natural "u32" 0 (UInt32.size - 1)

/-- Read a span of time, or its absence. -/
def readSpan : Json.Reader (Option UInt64) :=
  Json.Reader.optional (UInt64.ofNat <$> Json.Reader.natural "u64" 0 (UInt64.size - 1))

/-- Settings that are being read. -/
structure Draft where
  maxConnections : Option UInt32 := none
  minConnections : Option UInt32 := none
  maxLifetime : Option (Option UInt64) := none
  idleTimeout : Option (Option UInt64) := none

/-- The fields of the settings. -/
def shape : Shape Draft where
  name := "PoolSettings"
  empty := {}
  fields :=
    [defaultField "maxConnections" Draft.maxConnections
       (fun a d => { d with maxConnections := some a }) 10 readCount,
     defaultField "minConnections" Draft.minConnections
       (fun a d => { d with minConnections := some a }) 0 readCount,
     defaultField "maxLifetime" Draft.maxLifetime
       (fun a d => { d with maxLifetime := some a }) (some 3600) readSpan,
     defaultField "idleTimeout" Draft.idleTimeout
       (fun a d => { d with idleTimeout := some a }) (some 1800) readSpan]

/-- Read settings. -/
def reader : Json.Reader PoolSettings := do
  let d ← Json.Reader.record shape
  return ⟨d.maxConnections.getD 10, d.minConnections.getD 0, d.maxLifetime.getD (some 3600),
    d.idleTimeout.getD (some 1800)⟩

end PoolSettings
end Configuration
end QueryBatch
