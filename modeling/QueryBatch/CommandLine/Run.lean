import QueryBatch.Catalog.Service
import QueryBatch.CommandLine.Invocation
import QueryBatch.Configuration.File
import QueryBatch.Postgres.Driver
import QueryBatch.Sql.Layout

/-!
# Running an invocation

What an invocation prints, which files it leaves, and why it fails. Commands that need no database
do not look at the configuration. Every other one reads it first, then opens a pool, and only then
does its work, so that a mistake in the settings is told before one in the request.
-/

namespace QueryBatch
namespace CommandLine

open QueryBatch.Configuration
open Postgres (Network State)

/-- Why a run failed. -/
inductive Failure
  | configuration (source : ReadError)
  | settings (source : ConfigurationError)
  | write (source : FileError)
  | initialization (source : InitializationError)
  | health (source : HealthError)
  | catalog (source : Catalog.Error)
  | unreadableFile (file : String) (source : FileError)
  | malformedFile (file : String) (source : Json.Fault)
  /-- What was found cannot be printed. -/
  | unwritable (source : Exercise.Unwritable)
  /-- The work would never end. -/
  | endless

/-- The causes behind an error of a batch. -/
def batchCauses : Error → List String
  | .arguments source => [source.message]
  | .statement _ source => source.message :: batchCauses source
  | _ => []

/-- The causes behind an error of the catalogue. -/
def catalogCauses : Catalog.Error → List String
  | .execution source => batchCauses source
  | _ => []

/-- A failure and the causes behind it, the outermost first. -/
def Failure.chain : Failure → List String
  | .configuration source => [source.message]
  | .settings source => [source.message]
  | .write source => [writeMessage source, source.message]
  | .initialization source => [source.message, source.cause]
  | .health source => [source.message]
  | .catalog source => source.message :: catalogCauses source
  | .unreadableFile file source => ["reading " ++ file, source.message]
  | .malformedFile file source => ["parsing " ++ file, source.message]
  | .unwritable source => [source.message]
  | .endless => ["no answer"]

/-- The wording of a failure. -/
def Failure.message (failure : Failure) : String := Text.joinWith ": " failure.chain

/-- What comes of a run. -/
structure Outcome where
  output : String := ""
  failure : Option Failure := none
  files : Files

/-- A value as it is printed. -/
def printed (v : Json) : String := v.pretty ++ "\n"

/-- A search as it is printed: the statement, and a line for each of its arguments. -/
def printedSearch (filter : Filter) (page : Page) : String :=
  let request := Exercise.Query.search filter page
  let argument (pair : String × Param) : String :=
    "-- @" ++ pair.1 ++ " = " ++ pair.2.shown ++ "\n"
  Sql.Layout.format request.text ++ "\n" ++ String.join (request.args.pairs.map argument)

/-- The settings to run with: those of the configuration folder if one is named. -/
def settings (files : Files) (invocation : Invocation) : Except Failure DatabaseSettings := do
  let parsed ←
    match invocation.configuration with
    | some folder => (ParsedConfiguration.read files folder).mapError .configuration
    | none => pure { database := invocation.database }
  parsed.runtime.mapError .settings

/-- The file that describes an exercise. -/
def readNewExercise (files : Files) (file : String) : Except Failure NewExercise := do
  let text ← (files.readText (Path.parse file)).mapError (.unreadableFile file)
  (NewExercise.reader.onText text).mapError (.malformedFile file)

variable {ν S : Type} (net : Network ν)

/-- What an answer of the catalogue prints. -/
def printAnswer (toJson : α → Except Exercise.Unwritable Json) :
    Except Catalog.Error α → Except Failure String
  | .error e => .error (.catalog e)
  | .ok a => printed <$> (toJson a).mapError .unwritable

/-- Do what a command asks of the catalogue. -/
def serve (newId : Uuid) (files : Files) (ctx : Context) (command : Command) :
    Work (State ν) S (Except Failure String) := do
  match command with
  | .exercises filter page _ =>
      let result ← Catalog.search net.driver .rows ctx filter page
      return printAnswer Catalog.Matches.toJson result
  | .exercise id =>
      let result ← Catalog.fetch net.driver .rows ctx id
      return printAnswer Exercise.toJson result
  | .create file =>
      match readNewExercise files file with
      | .error e => return .error e
      | .ok exercise =>
          let result ← Catalog.create net.driver .rows ctx newId exercise
          return printAnswer Exercise.toJson result
  | _ => return .ok ""

/-- Do what a command asks of the database. -/
def work (settings : DatabaseSettings) (newId : Uuid) (files : Files) (ctx : Context)
    (command : Command) : Work (State ν) S (Except Failure String) := do
  match command with
  | .health =>
      match ← net.driver.statusCheck ctx with
      | .error e => return .error (.health e)
      | .ok () => return .ok "ok\n"
  | command =>
      Work.change fun world => world.note "INFO"
        [("message", "connecting to database"), ("host", settings.host),
          ("port", toString settings.port.toNat), ("database", settings.name),
          ("max_connections", toString settings.pool.maxConnections.toNat)]
      match ← net.fill with
      | .error e => return .error (.initialization (.unableToCreatePool e))
      | .ok () =>
          let result ← serve net newId files ctx command
          if result.isOk then net.closePool
          return result

/-- The context of a run that starts now. -/
def context (timeout : Option Nat) : Context :=
  match timeout with
  | some seconds => Context.empty.withTimeout 0 (seconds * 1000)
  | none => .empty

/-- Run a command on the database, over a network in its first state. -/
def runOnDatabase (network : ν) (newId : Uuid) (environment : Environment) (files : Files)
    (invocation : Invocation) : Except Failure String := do
  let settings ← settings files invocation
  let pool ← (settings.connectLazy environment).mapError .initialization
  let world : World (State ν) Unit :=
    { now := 0, spans := [], notes := [], openTx := [],
      driver := State.start pool.pool.options network, store := () }
  let ctx := context invocation.timeout
  match work net settings newId files ctx invocation.command none world with
  | (.done result, _) => result
  | _ => .error .endless

/-- Run an invocation. -/
def run (network : ν) (newId : Uuid) (environment : Environment) (files : Files)
    (invocation : Invocation) : Outcome :=
  match invocation.command with
  | .configSchema => { output := printed Schema.file, files := files }
  | .setUp folder =>
      let parsed : ParsedConfiguration := { database := invocation.database }
      let (result, files) := parsed.write files folder
      match result with
      | .ok () => { files := files }
      | .error e => { failure := some (.write e), files := files }
  | .exercises filter page true => { output := printedSearch filter page, files := files }
  | _ =>
      match runOnDatabase net network newId environment files invocation with
      | .ok output => { output := output, files := files }
      | .error e => { failure := some e, files := files }

end CommandLine
end QueryBatch
