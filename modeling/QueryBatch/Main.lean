import QueryBatch.CommandLine.Run

/-!
# The program

The outer layer of the command line: it hands the arguments, the environment and the files that an
invocation may read to `CommandLine.run`, and prints and writes what comes of it. It opens no
connection, so a command that needs a server answers that there is none.
-/

namespace QueryBatch
namespace Program

open CommandLine QueryBatch.Configuration

/-- What is printed for help. -/
def helpText : String :=
  "usage: repbatch [--configuration <dir>] [--timeout <seconds>] [--db-...] <command>\n"
    ++ "commands: health, exercises, exercise, create, initialize, config-schema, help\n"

/-- What is printed for the version. -/
def versionText : String := "repbatch 0.1.1\n"

/-- The variables of these names that are set. -/
def readVariables (names : List String) : IO Environment := do
  let settings ← names.filterMapM fun name => do
    return (← IO.getEnv name).map fun value => (name, Setting.text value)
  return .ofList settings

/-- The files with the one at a path, if there is one. -/
def load (files : Files) (path : String) : IO Files := do
  let node ← match ← (IO.FS.readBinFile path).toBaseIO with
    | .ok bytes => pure (some (Node.file (bytes.toList.map UInt8.toNat)))
    | .error (.inappropriateType ..) => pure (some .folder)
    | .error _ => pure none
  match node.map (files.add (Path.parse path)) with
  | some (.ok files) => return files
  | _ => return files

/-- The paths of the files that an invocation may read. -/
def inputs (invocation : Invocation) : List String :=
  let configuration := invocation.configuration.map fun folder => Path.join folder fileName
  match invocation.command with
  | .create file => configuration.toList ++ [file]
  | _ => configuration.toList

/-- Write the files that were not there before. -/
def store (before after : Files) : IO Unit := do
  for (path, node) in after.entries.reverse do
    if before.entries.lookup path ≠ some node then
      match node with
      | .folder => IO.FS.createDirAll (Path.text path)
      | .file octets =>
          IO.FS.writeBinFile (Path.text path) ⟨(octets.map UInt8.ofNat).toArray⟩

/-- A new identifier. -/
def newId : IO Uuid := do
  let bytes ← IO.getRandomBytes 16
  return .ofRandom (bytes.toList.foldl (fun n byte => n * 256 + byte.toNat) 0)

/-- The variables that the settings refer to. -/
def secretVariables (files : Files) (invocation : Invocation) : List String :=
  match settings files invocation with
  | .ok { password := .fromEnvironment name, .. } => [name]
  | _ => []

/-- Run an invocation and answer the exit code. -/
def perform (invocation : Invocation) : IO UInt32 := do
  let files ← (inputs invocation).foldlM load {}
  let environment ← readVariables (secretVariables files invocation)
  let outcome := run Postgres.Network.silent () (← newId) environment files invocation
  store files outcome.files
  IO.print outcome.output
  match outcome.failure with
  | none => return 0
  | some failure =>
      IO.eprintln failure.message
      return 1

/-- Do what arguments ask for and answer the exit code. -/
def answer (args : List String) : IO UInt32 := do
  let names := CommandLine.Settings.options.filterMap OptionSpec.source?
  match Invocation.parse args (← readVariables names) with
  | .ok invocation => perform invocation
  | .error .helpWanted =>
      IO.print helpText
      return 0
  | .error .versionWanted =>
      IO.print versionText
      return 0
  | .error e =>
      IO.eprintln e.message
      IO.eprint helpText
      return 2

end Program
end QueryBatch

/-- Do what the arguments ask for. -/
def main (args : List String) : IO UInt32 := QueryBatch.Program.answer args
