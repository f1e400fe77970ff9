import QueryBatch.CommandLine.Arguments
import QueryBatch.Configuration.Database
import QueryBatch.Exercise.Page
import QueryBatch.Exercise.Record

/-!
# Invocations

What the program can be asked to do, and how a command line asks for it. The settings of the
database stand before the command; the folder of the configuration and the time limit may stand
before or after it, and after it they win.
-/

namespace QueryBatch
namespace CommandLine

open QueryBatch.Configuration (DatabaseSettings Environment)

/-- A command with its arguments. -/
inductive Command
  /-- Check that the database answers. -/
  | health
  /-- Search the exercise library, or print the statement that would do so. -/
  | exercises (filter : Filter) (page : Page) (printSql : Bool)
  /-- Show one exercise. -/
  | exercise (id : Uuid)
  /-- Add the exercise that a file describes. -/
  | create (file : String)
  /-- Write the settings into a configuration folder. -/
  | setUp (folder : String)
  /-- Print the schema of the configuration file. -/
  | configSchema
  deriving Inhabited

/-- What the program is asked to do. -/
structure Invocation where
  /-- The folder of the configuration to use, in the place of the settings. -/
  configuration : Option String := none
  /-- The time limit, in seconds. -/
  timeout : Option Nat := none
  database : DatabaseSettings
  command : Command
  deriving Inhabited

/-- What can stand before and after the command. -/
structure Shared where
  configuration : Option String := none
  timeout : Option Nat := none

/-- The values of one level over those of another. -/
def Shared.over (inner outer : Shared) : Shared where
  configuration := inner.configuration.or outer.configuration
  timeout := inner.timeout.or outer.timeout

/-- What was read before the command. -/
structure Settings where
  shared : Shared := {}
  user : Option String := none
  password : Option String := none
  host : Option String := none
  port : Option Nat := none
  name : Option String := none
  schema : Option String := none
  disableTls : Option Bool := none
  maxConnections : Option Nat := none
  minConnections : Option Nat := none
  maxLifetime : Option Nat := none
  idleTimeout : Option Nat := none

/-- What was read after the command. -/
structure Request where
  shared : Shared := {}
  name : Option String := none
  category : Option String := none
  equipment : List String := []
  muscles : List String := []
  tags : List String := []
  pageSize : Option Nat := none
  page : Option Nat := none
  printSql : Option Bool := none
  id : Option Uuid := none
  file : Option String := none
  outDir : Option String := none

/-- The options that may stand before and after the command. -/
def sharedOptions (source? : Option String) (get : σ → Shared) (set : Shared → σ → σ) :
    List (OptionSpec σ) :=
  [single "configuration" source? ValueReader.path (fun s => (get s).configuration)
     (fun a s => set { get s with configuration := some a } s),
   single "timeout" none (ValueReader.naturalBelow UInt64.size) (fun s => (get s).timeout)
     (fun a s => set { get s with timeout := some a } s)]

/-- The option that asks for help. -/
def helpOption : OptionSpec σ := { name := "help", letter? := some 'h', effect := .help }

/-- The option that asks for the version. -/
def versionOption : OptionSpec σ := { name := "version", letter? := some 'V', effect := .version }

/-- The command that explains others. -/
def helpCommand : String := "help"

/-- The variable for the folder of the configuration. -/
def configurationVariable : String := "REPBATCH_CONFIGURATION"

namespace Settings

/-- An option of the database. -/
def database (name source : String) (reader : ValueReader α) (get : Settings → Option α)
    (set : α → Settings → Settings) : OptionSpec Settings :=
  single name (some ("REPBATCH_DB_" ++ source)) reader get set

/-- The options before the command. -/
def options : List (OptionSpec Settings) :=
  sharedOptions (some configurationVariable) Settings.shared (fun a s => { s with shared := a })
    ++ [database "db-user" "USER" ValueReader.text Settings.user
          (fun a s => { s with user := some a }),
        database "db-password" "PASSWORD" ValueReader.text Settings.password
          (fun a s => { s with password := some a }),
        database "db-host" "HOST" ValueReader.text Settings.host
          (fun a s => { s with host := some a }),
        database "db-port" "PORT" (ValueReader.below UInt16.size) Settings.port
          (fun a s => { s with port := some a }),
        database "db-name" "NAME" ValueReader.text Settings.name
          (fun a s => { s with name := some a }),
        database "db-schema" "SCHEMA" ValueReader.text Settings.schema
          (fun a s => { s with schema := some a }),
        flag "db-disable-tls" (some "REPBATCH_DB_DISABLE_TLS") Settings.disableTls
          (fun a s => { s with disableTls := some a }),
        database "pool-max-connections" "POOL_MAX_CONNECTIONS" (ValueReader.below UInt32.size)
          Settings.maxConnections (fun a s => { s with maxConnections := some a }),
        database "pool-min-connections" "POOL_MIN_CONNECTIONS" (ValueReader.below UInt32.size)
          Settings.minConnections (fun a s => { s with minConnections := some a }),
        database "pool-max-lifetime" "POOL_MAX_LIFETIME" (ValueReader.naturalBelow UInt64.size)
          Settings.maxLifetime (fun a s => { s with maxLifetime := some a }),
        database "pool-idle-timeout" "POOL_IDLE_TIMEOUT" (ValueReader.naturalBelow UInt64.size)
          Settings.idleTimeout (fun a s => { s with idleTimeout := some a }),
        helpOption, versionOption]

/-- What can stand before the command, and the commands. -/
def level : Level Settings where
  options := options
  commands :=
    ["health", "exercises", "exercise", "create", "initialize", "config-schema", helpCommand]

/-- The settings of the database, where nothing is said those that hold anyway. A password is
taken as it is written. -/
def databaseSettings (s : Settings) : DatabaseSettings where
  user := s.user.getD "postgres"
  password := .plain (s.password.getD "env:PGPASSWORD")
  host := s.host.getD "localhost"
  port := UInt16.ofNat (s.port.getD 5432)
  name := s.name.getD "repbatch"
  schema := s.schema
  disableTls := s.disableTls.getD false
  pool :=
    { maxConnections := UInt32.ofNat (s.maxConnections.getD 10)
      minConnections := UInt32.ofNat (s.minConnections.getD 0)
      maxLifetime := some (UInt64.ofNat (s.maxLifetime.getD 3600))
      idleTimeout := some (UInt64.ofNat (s.idleTimeout.getD 1800)) }

end Settings

namespace Request

/-- The options after any command. -/
def sharedAfter : List (OptionSpec Request) :=
  sharedOptions (some configurationVariable) Request.shared (fun a r => { r with shared := a })

/-- The options of a search. -/
def searchOptions : List (OptionSpec Request) :=
  [single "name" none ValueReader.text Request.name (fun a r => { r with name := some a }),
   single "category" none ValueReader.text Request.category
     (fun a r => { r with category := some a }),
   repeatable "equipment" Request.equipment (fun a r => { r with equipment := a }),
   repeatable "muscle" Request.muscles (fun a r => { r with muscles := a }),
   repeatable "tag" Request.tags (fun a r => { r with tags := a }),
   single "page-size" none ValueReader.positive Request.pageSize
     (fun a r => { r with pageSize := some a }),
   single "page" none ValueReader.positive Request.page (fun a r => { r with page := some a }),
   flag "print-sql" none Request.printSql (fun a r => { r with printSql := some a })]

/-- The option for the folder to write to. -/
def outDirOption : OptionSpec Request :=
  single "out-dir" none ValueReader.path Request.outDir (fun a r => { r with outDir := some a })

/-- What can stand after a command. -/
def level (command : String) : Level Request :=
  match command with
  | "exercises" => { options := sharedAfter ++ searchOptions ++ [helpOption] }
  | "exercise" =>
      { options := sharedAfter ++ [helpOption]
        positions := [position "id" ValueReader.uuid Request.id
          (fun a r => { r with id := some a })] }
  | "create" =>
      { options := sharedAfter ++ [helpOption]
        positions := [position "file" ValueReader.path Request.file
          (fun a r => { r with file := some a })] }
  | "initialize" => { options := sharedAfter ++ [outDirOption, helpOption] }
  | _ => { options := sharedAfter ++ [helpOption] }

/-- A list that was given, or nothing if it was not. -/
def given (items : List α) : Option (List α) := if items.isEmpty then none else some items

/-- The filter of a search. -/
def filter (r : Request) : Filter where
  name := r.name
  category := r.category
  equipmentTypes := given r.equipment
  primaryMuscles := given r.muscles
  tags := given r.tags

/-- A command with the arguments that were read, unless one is missing. -/
def command (name : String) (r : Request) : Except UsageError Command :=
  match name with
  | "exercises" =>
      .ok (.exercises r.filter ((Page.of? (r.pageSize.getD 20) (r.page.getD 1)).getD default)
        (r.printSql.getD false))
  | "exercise" =>
      match r.id with
      | some id => .ok (.exercise id)
      | none => .error (.missingArgument "id")
  | "create" =>
      match r.file with
      | some file => .ok (.create file)
      | none => .error (.missingArgument "file")
  | "initialize" =>
      match r.outDir with
      | some folder => .ok (.setUp folder)
      | none => .error (.missingArgument (optionTitle "out-dir"))
  | "config-schema" => .ok .configSchema
  | _ => .ok .health

end Request

namespace Invocation

/-- What comes of asking for help with commands: no command has commands of its own. -/
def helpWith : List String → UsageError
  | [] => .helpWanted
  | [name] => if Settings.level.commands.contains name then .helpWanted else .unknownCommand name
  | name :: other :: _ =>
      if Settings.level.commands.contains name then .unknownCommand other else .unknownCommand name

/-- Read what follows a command. The values that may also stand before it are those of the command
line alone; the environment is only checked for them. -/
def readRequest (environment : Environment) (name : String) (args : List String) :
    Except UsageError (Shared × Command) := do
  let level := Request.level name
  let (progress, _) ← level.read level.positions false { record := {} } args
  let progress ← progress.resolve
  let request ← level.finish environment progress
  return (progress.record.shared, ← request.command name)

/-- The invocation that a command line asks for, with what it leaves out taken from the
environment. -/
def parse (args : List String) (environment : Environment) : Except UsageError Invocation := do
  let level := Settings.level
  match ← level.read [] false { record := {} } args with
  | (progress, some (name, rest)) =>
      if name = helpCommand then .error (helpWith rest)
      else
        let (shared, command) ← readRequest environment name rest
        let settings ← level.finish environment progress
        let shared := shared.over settings.shared
        return {
          configuration := shared.configuration
          timeout := shared.timeout
          database := settings.databaseSettings
          command := command }
  | (progress, none) => do
      let settings ← level.finish environment progress
      .error (if level.anyGiven settings then .missingCommand else .nothingWanted)

end Invocation
end CommandLine
end QueryBatch
