import QueryBatch.Batch.Error
import QueryBatch.Configuration.Host
import QueryBatch.Configuration.PoolSettings
import QueryBatch.Configuration.Secret
import QueryBatch.Postgres.Parameters
import QueryBatch.Text.Percent

/-!
# Settings of the database

How to reach the database. From the same settings come a URL, for other programs, and the parameters
of the driver. Every connection keeps time in UTC and, if a schema is set, looks for tables in that
schema.
-/

namespace QueryBatch
namespace Configuration

open Json.Reader (Shape requiredField defaultField)
open Postgres (Address Parameters ServerPool Tls)

/-- The settings of a database. -/
structure DatabaseSettings where
  user : String
  password : Secret
  /-- A name or an address; one of version 6 may be in brackets. -/
  host : String
  port : UInt16 := 5432
  /-- The name of the database. -/
  name : String
  /-- Where tables are looked for. -/
  schema : Option String := none
  /-- Whether connections go without encryption. -/
  disableTls : Bool := false
  pool : PoolSettings := {}
  deriving DecidableEq, Inhabited

/-- The fields that must not be empty. -/
inductive RequiredField
  | user
  | password
  | host
  | databaseName
  deriving DecidableEq, Repr

/-- The wording of a field. -/
def RequiredField.message : RequiredField → String
  | .user => "user"
  | .password => "password"
  | .host => "host"
  | .databaseName => "database name"

/-- Why settings cannot be used. -/
inductive ConfigurationError
  | missingField (field : RequiredField)
  | invalidHost (host : String)
  | invalidPort
  | invalidPoolSettings (source : PoolFault)
  | environment (source : EnvironmentError)
  deriving DecidableEq, Repr

/-- The wording of an error. -/
def ConfigurationError.message : ConfigurationError → String
  | .missingField field => field.message ++ " is required"
  | .invalidHost host => "invalid host: " ++ Text.quoted host
  | .invalidPort => "port must not be 0"
  | .invalidPoolSettings source => "invalid pool settings: " ++ source.message
  | .environment source => source.message

/-- Why there is no pool. -/
inductive InitializationError
  | configuration (source : ConfigurationError)
  | unableToCreatePool (source : DriverError)
  deriving DecidableEq, Repr

/-- The wording of the cause alone. -/
def InitializationError.cause : InitializationError → String
  | .configuration source => source.message
  | .unableToCreatePool source => source.message

/-- The wording of an error. -/
def InitializationError.message : InitializationError → String
  | .configuration source => "invalid configuration: " ++ source.message
  | .unableToCreatePool source => "unable to initialize connection pool: " ++ source.message

namespace DatabaseSettings

/-- A local database whose password is in a variable. -/
def initial : DatabaseSettings :=
  { user := "postgres", password := .fromEnvironment "PGPASSWORD", host := "localhost",
    name := "repbatch" }

/-- Whether connections are encrypted. -/
def tls (settings : DatabaseSettings) : Tls :=
  if settings.disableTls then .disabled else .required

/-- Check that nothing needed is empty, the form of the host, and the bounds. -/
def validate (settings : DatabaseSettings) : Except ConfigurationError Unit :=
  if settings.user = "" then .error (.missingField .user)
  else if settings.password.isEmpty then .error (.missingField .password)
  else if settings.host = "" then .error (.missingField .host)
  else if settings.name = "" then .error (.missingField .databaseName)
  else if !Host.isValid settings.host.toList then .error (.invalidHost settings.host)
  else if settings.port = 0 then .error .invalidPort
  else settings.pool.validate.mapError .invalidPoolSettings

/-- The password. -/
def resolvePassword (settings : DatabaseSettings) (environment : Environment) :
    Except ConfigurationError String :=
  (settings.password.resolve environment).mapError .environment

/-- The characters of the URL for a password. -/
def urlWith (settings : DatabaseSettings) (password : String) : List Char :=
  "postgres://".toList ++ Text.Percent.encode settings.user.toList
    ++ ':' :: Text.Percent.encode password.toList
    ++ '@' :: Host.inUrl settings.host.toList
    ++ ':' :: (toString settings.port.toNat).toList
    ++ '/' :: Text.Percent.encode settings.name.toList
    ++ "?sslmode=".toList ++ settings.tls.sslMode.toList
    ++ "&timezone=utc".toList
    ++ match settings.schema with
      | none => []
      | some schema => "&search_path=".toList ++ Text.Percent.encode schema.toList

/-- The URL. -/
def url (settings : DatabaseSettings) (environment : Environment) :
    Except ConfigurationError String := do
  return String.ofList (settings.urlWith (← settings.resolvePassword environment))

/-- A character of the value of an option. Blanks separate options, so a blank is marked, and so is
the mark. -/
def optionChar (c : Char) : List Char := if c = '\\' || Text.isBlank c then ['\\', c] else [c]

/-- The value of an option. -/
def escapeOption (cs : List Char) : List Char := cs.flatMap optionChar

/-- The options of every connection. -/
def options (settings : DatabaseSettings) : List Char :=
  "-c TimeZone=UTC".toList
    ++ match settings.schema with
      | none => []
      | some schema => " -c search_path=".toList ++ escapeOption schema.toList

/-- The parameters of the driver for a password. -/
def parametersWith (settings : DatabaseSettings) (password : String) : Parameters where
  address := .ofHost (String.ofList (Host.forDriver settings.host.toList))
  port := settings.port
  user := settings.user
  password := password
  database := settings.name
  tls := settings.tls
  options := String.ofList settings.options

/-- The parameters of the driver. -/
def parameters (settings : DatabaseSettings) (environment : Environment) :
    Except ConfigurationError Parameters := do
  return settings.parametersWith (← settings.resolvePassword environment)

/-- A pool that opens its connections when they are needed. -/
def connectLazy (settings : DatabaseSettings) (environment : Environment) :
    Except InitializationError ServerPool := do
  settings.validate.mapError .configuration
  let parameters ← (settings.parameters environment).mapError .configuration
  return .new parameters settings.pool.options

/-- The settings as shown to a person. -/
def shown (settings : DatabaseSettings) : String :=
  "DatabaseConfig \x7b user: " ++ Text.quoted settings.user
    ++ ", password: " ++ settings.password.shown
    ++ ", host: " ++ Text.quoted settings.host
    ++ ", port: " ++ toString settings.port.toNat
    ++ ", name: " ++ Text.quoted settings.name
    ++ ", schema: "
    ++ (match settings.schema with
        | none => "None"
        | some schema => "Some(" ++ Text.quoted schema ++ ")")
    ++ ", disable_tls: " ++ (if settings.disableTls then "true" else "false")
    ++ ", pool: " ++ settings.pool.shown ++ " \x7d"

/-- The settings in JSON. No schema and a pool of which nothing is said are left out. -/
def toJson (settings : DatabaseSettings) : Json :=
  .object <|
    [("user", .string settings.user), ("password", settings.password.toJson),
      ("host", .string settings.host), ("port", .nat settings.port.toNat),
      ("name", .string settings.name)]
    ++ (match settings.schema with
        | none => []
        | some schema => [("schema", .string schema)])
    ++ [("disableTls", .bool settings.disableTls)]
    ++ (if settings.pool.isDefault then [] else [("pool", settings.pool.toJson)])

/-- Settings that are being read. -/
structure Draft where
  user : Option String := none
  password : Option Secret := none
  host : Option String := none
  port : Option UInt16 := none
  name : Option String := none
  schema : Option (Option String) := none
  disableTls : Option Bool := none
  pool : Option PoolSettings := none

/-- Read a port. -/
def readPort : Json.Reader UInt16 := UInt16.ofNat <$> Json.Reader.natural "u16" 0 (UInt16.size - 1)

/-- The fields of the settings. -/
def shape : Shape Draft where
  name := "DatabaseConfig"
  empty := {}
  fields :=
    [requiredField "user" Draft.user (fun a d => { d with user := some a }) Json.Reader.string,
     requiredField "password" Draft.password (fun a d => { d with password := some a })
       Secret.reader,
     requiredField "host" Draft.host (fun a d => { d with host := some a }) Json.Reader.string,
     defaultField "port" Draft.port (fun a d => { d with port := some a }) 5432 readPort,
     requiredField "name" Draft.name (fun a d => { d with name := some a }) Json.Reader.string,
     defaultField "schema" Draft.schema (fun a d => { d with schema := some a }) none
       (Json.Reader.optional Json.Reader.string),
     defaultField "disableTls" Draft.disableTls (fun a d => { d with disableTls := some a }) false
       Json.Reader.bool,
     defaultField "pool" Draft.pool (fun a d => { d with pool := some a }) {} PoolSettings.reader]

/-- Read settings. -/
def reader : Json.Reader DatabaseSettings := do
  let d ← Json.Reader.record shape
  return ⟨d.user.getD "", d.password.getD default, d.host.getD "", d.port.getD 5432,
    d.name.getD "", d.schema.getD none, d.disableTls.getD false, d.pool.getD {}⟩

end DatabaseSettings
end Configuration
end QueryBatch
