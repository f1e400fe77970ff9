import QueryBatch.Configuration.Database
import QueryBatch.Configuration.Schema
import QueryBatch.Files

/-!
# The configuration file

A folder holds the configuration, and beside it the schema of such files. The file says which
version of the format it has, and only the current one is read. Reading does not check that the
settings can be used; `ParsedConfiguration.runtime` does.
-/

namespace QueryBatch
namespace Configuration

open Json.Reader (Shape requiredField)

/-- The version of the format that is read and written. -/
def currentVersion : UInt32 := 1

/-- The name of the configuration in its folder. -/
def fileName : String := "configuration.json"

/-- The name of the schema in that folder. -/
def schemaName : String := "schema.json"

/-- What a configuration file says. -/
structure ParsedConfiguration where
  version : UInt32 := currentVersion
  database : DatabaseSettings
  deriving DecidableEq, Inhabited

/-- Why a configuration is not read. -/
inductive ReadError
  | malformed (path : String) (source : Json.Fault)
  | unsupportedVersion (version : UInt32)
  | io (path : String) (source : FileError)

/-- The line and the column of a fault, or zero where it has none. -/
def placeOf (fault : Json.Fault) : Nat × Nat :=
  match fault.place with
  | some p => (p.line, p.column)
  | none => (0, 0)

/-- The wording of an error. -/
def ReadError.message : ReadError → String
  | .malformed path source =>
      let (line, column) := placeOf source
      "parse error on " ++ path ++ ":" ++ toString line ++ ":" ++ toString column ++ ": "
        ++ source.message
  | .unsupportedVersion version =>
      "unsupported configuration version " ++ toString version.toNat ++ ", expected "
        ++ toString currentVersion.toNat
  | .io path source => "I/O error: " ++ path ++ ": " ++ source.message

/-- The wording of a failure to write. -/
def writeMessage (source : FileError) : String := "I/O error: " ++ source.message

/-- The text of a JSON file: over several lines, the last one ended as well. -/
def fileText (v : Json) : String := v.pretty ++ "\n"

namespace ParsedConfiguration

/-- The configuration to start from. -/
def initial : ParsedConfiguration := { database := .initial }

/-- The configuration in JSON. -/
def toJson (c : ParsedConfiguration) : Json :=
  .object [("version", .nat c.version.toNat), ("database", c.database.toJson)]

/-- A configuration that is being read. -/
structure Draft where
  version : Option UInt32 := none
  database : Option DatabaseSettings := none

/-- The fields of a configuration. -/
def shape : Shape Draft where
  name := "ParsedConfiguration"
  empty := {}
  fields :=
    [requiredField "version" Draft.version (fun a d => { d with version := some a })
       PoolSettings.readCount,
     requiredField "database" Draft.database (fun a d => { d with database := some a })
       DatabaseSettings.reader]

/-- Read a configuration. -/
def reader : Json.Reader ParsedConfiguration := do
  let d ← Json.Reader.record shape
  return ⟨d.version.getD currentVersion, d.database.getD default⟩

/-- The configuration in the text of a file. -/
def ofText (path text : String) : Except ReadError ParsedConfiguration :=
  match reader.onText text with
  | .error fault => .error (.malformed path fault)
  | .ok c => if c.version = currentVersion then .ok c else .error (.unsupportedVersion c.version)

/-- The configuration in a folder. -/
def read (files : Files) (folder : String) : Except ReadError ParsedConfiguration :=
  let path := Path.join folder fileName
  match files.readText (Path.parse path) with
  | .error e => .error (.io path e)
  | .ok text => ofText path text

/-- Write a configuration into a folder, which is made if it is missing, and then its schema. What
was done before a failure stays done. -/
def write (c : ParsedConfiguration) (files : Files) (folder : String) :
    Except FileError Unit × Files :=
  match files.makeFolders [] (Path.parse folder) with
  | .error e => (.error e, files)
  | .ok files =>
      match files.writeText (Path.parse (Path.join folder fileName)) (fileText c.toJson) with
      | .error e => (.error e, files)
      | .ok files =>
          match files.writeText (Path.parse (Path.join folder schemaName))
              (fileText Schema.file) with
          | .error e => (.error e, files)
          | .ok files => (.ok (), files)

/-- The settings to run with, checked. -/
def runtime (c : ParsedConfiguration) : Except ConfigurationError DatabaseSettings := do
  c.database.validate
  return c.database

/-- The configuration as shown to a person. -/
def shown (c : ParsedConfiguration) : String :=
  "ParsedConfiguration \x7b version: " ++ toString c.version.toNat ++ ", database: "
    ++ c.database.shown ++ " \x7d"

/-- The settings to run with as shown to a person. -/
def shownRuntime (settings : DatabaseSettings) : String :=
  "Configuration \x7b database: " ++ settings.shown ++ " \x7d"

end ParsedConfiguration
end Configuration
end QueryBatch
