import QueryBatch.Batch.Context

/-!
# Health of a database

A status check pings until the database answers or the deadline passes, waiting a little longer
after each failure, and then sends one query, because a ping alone does not run one.
-/

namespace QueryBatch

/-- Why a database is not healthy. -/
inductive HealthError
  /-- Every ping failed, and the next wait would not end before the deadline. -/
  | unreachable (attempts : Nat) (last : DriverError)
  /-- The deadline passed; `last` is the error of the ping before, if one failed. -/
  | timeout (attempts : Nat) (last : Option DriverError)
  | query (source : DriverError)
  | unexpectedRows (n : Nat)
  deriving DecidableEq, Repr

/-- The wording of a health error. -/
def HealthError.message : HealthError → String
  | .unreachable attempts last =>
      "database unreachable after " ++ toString attempts ++ " attempts: " ++ last.message
  | .timeout attempts last =>
      "no answer from the database after " ++ toString attempts ++ " attempts"
        ++ (match last with
            | some e => " (last error: " ++ e.message ++ ")"
            | none => "")
  | .query source => "health check query failed: " ++ source.message
  | .unexpectedRows n => "health check returned " ++ toString n ++ " rows, expected 1"

namespace Driver

variable {σ ρ S : Type}

/-- How long to try without a deadline, in milliseconds. -/
def healthTimeout : Nat := 1000

/-- The wait after the first failed ping, and what is added for each further one. -/
def backoffStep : Nat := 100

/-- Ping until an answer comes, and answer the number of pings and the last failure. `attempts` and
`last` tell of the pings before. The waits grow, so `fuel` pings are enough if the deadline is no
more than `fuel` steps away. For the same reason the attempts fit into 32 bits: the waits up to the
attempt with the number `2 ^ 32` take `50 * (2 ^ 32 - 1) * 2 ^ 32` milliseconds, which is more than
29 thousand million years. -/
def pingUntil (d : Driver σ ρ) (deadline : Nat) :
    Nat → Nat → Option DriverError → Work σ S (Except HealthError (Nat × Option DriverError))
  | 0, attempts, last => return .error (.timeout attempts last)
  | fuel + 1, attempts, last => do
      let attempts := attempts + 1
      match ← Work.giveUpAt deadline d.ping with
      | none => return .error (.timeout attempts last)
      | some (.ok ()) => return .ok (attempts, last)
      | some (.error e) =>
          Work.change fun world => world.note "WARN"
            [("message", "health check ping failed"), ("attempt", toString attempts),
              ("error", e.message)]
          let t ← Work.now
          let wake := t + backoffStep * attempts
          if deadline ≤ wake then return .error (.unreachable attempts e)
          else
            Work.sleepUntil wake
            pingUntil d deadline fuel attempts (some e)

/-- The query that a healthy database answers with one row. -/
def healthQuery : Statement := ⟨Sql.positional "SELECT TRUE" [], .query⟩

/-- Check that the database answers. -/
def statusCheck (d : Driver σ ρ) (ctx : Context) : Work σ S (Except HealthError Unit) := do
  let start ← Work.now
  let deadline := ctx.deadline.getD (start + healthTimeout)
  match ← d.pingUntil deadline ((deadline - start) / backoffStep + 2) 0 none with
  | .error e => return .error e
  | .ok (attempts, last) =>
      match ← Work.giveUpAt deadline (d.send [healthQuery]) with
      | none => return .error (.timeout attempts last)
      | some (.error e) => return .error (.query e)
      | some (.ok answers) =>
          let rows := (answers.head?.map fun answer => answer.rows.length).getD 0
          if rows = 1 then return .ok () else return .error (.unexpectedRows rows)

end Driver
end QueryBatch
