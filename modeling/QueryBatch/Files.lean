import QueryBatch.Text.Utf8

/-!
# Files

A tree of folders and files, kept as a list of what is at each path. A path is the list of the names
on the way. `Files.walk` follows a path through folders; `..` leads back up.
-/

namespace QueryBatch

/-- The names on the way to a folder or file. -/
abbrev Path : Type := List String

namespace Path

/-- The path that a text writes: names between slashes, and a slash by itself at the start of one
that begins at the root. -/
def parse (text : String) : Path :=
  let names := ((text.toList.splitOn '/').map String.ofList).filter fun name =>
    name ≠ "" && name ≠ "."
  if text.toList.head? = some '/' then "/" :: names else names

/-- The text of a path. -/
def text : Path → String
  | "/" :: names => "/" ++ "/".intercalate names
  | names => "/".intercalate names

/-- The text of a path to a name in a folder. -/
def join (folder name : String) : String :=
  if folder = "" ∨ folder.toList.getLast? = some '/' then folder ++ name
  else folder ++ "/" ++ name

/-- One name further, or one back. -/
def step (path : Path) (name : String) : Path :=
  if name = ".." then path.dropLast else path ++ [name]

end Path

/-- What is at a path. -/
inductive Node
  | folder
  | file (octets : List Nat)
  deriving DecidableEq, Inhabited

/-- Why something cannot be done with files. -/
inductive FileError
  | notFound
  | exists
  | notAFolder
  | isAFolder
  /-- The octets of a file are no text. -/
  | notText
  deriving DecidableEq, Repr

/-- The wording of an error. -/
def FileError.message : FileError → String
  | .notFound => "No such file or directory (os error 2)"
  | .exists => "File exists (os error 17)"
  | .notAFolder => "Not a directory (os error 20)"
  | .isAFolder => "Is a directory (os error 21)"
  | .notText => "stream did not contain valid UTF-8"

/-- The folders and files that there are, besides the folder where paths start and the root. -/
structure Files where
  entries : List (Path × Node) := []
  deriving DecidableEq, Inhabited

namespace Files

/-- What is at a path that was walked. -/
def node? (files : Files) (path : Path) : Option Node :=
  if path = [] ∨ path = ["/"] then some .folder else files.entries.lookup path

/-- Put something at a path, in the place of what was there. -/
def put (files : Files) (path : Path) (node : Node) : Files :=
  ⟨(path, node) :: files.entries.filter fun other => other.1 ≠ path⟩

/-- Where names lead from a folder. All but the last have to lead to folders. -/
def walk (files : Files) : Path → List String → Except FileError Path
  | path, [] => .ok path
  | path, name :: rest =>
      match files.node? path with
      | some .folder => files.walk (path.step name) rest
      | some (.file _) => .error .notAFolder
      | none => .error .notFound

/-- The text of the file at a path. -/
def readText (files : Files) (path : Path) : Except FileError String := do
  match files.node? (← files.walk [] path) with
  | none => .error .notFound
  | some .folder => .error .isAFolder
  | some (.file octets) =>
      match Text.Utf8.decode? octets with
      | some cs => .ok (String.ofList cs)
      | none => .error .notText

/-- Make a file with these octets, or replace its octets. -/
def writeOctets (files : Files) (path : Path) (octets : List Nat) : Except FileError Files := do
  let path ← files.walk [] path
  match files.node? path with
  | some .folder => .error .isAFolder
  | _ => .ok (files.put path (.file octets))

/-- Make a file with this text, or replace its text. -/
def writeText (files : Files) (path : Path) (text : String) : Except FileError Files :=
  files.writeOctets path (Text.Utf8.encode text.toList)

/-- Make the folders that are missing on a way. -/
def makeFolders (files : Files) : Path → List String → Except FileError Files
  | _, [] => .ok files
  | path, name :: rest =>
      let next := path.step name
      match files.node? next with
      | some .folder => files.makeFolders next rest
      | some (.file _) => .error (if rest = [] then .exists else .notAFolder)
      | none => (files.put next .folder).makeFolders next rest

/-- Put a folder or a file at a path, with the folders on the way to it. -/
def add (files : Files) (path : Path) : Node → Except FileError Files
  | .folder => files.makeFolders [] path
  | .file octets => do (← files.makeFolders [] path.dropLast).writeOctets path octets

/-- The octets of the files below a folder, each by the way from there. -/
def below (files : Files) (folder : Path) : List (String × List Nat) :=
  files.entries.filterMap fun (path, node) =>
    match node with
    | .folder => none
    | .file octets =>
        if folder.isPrefixOf path then some (Path.text (path.drop folder.length), octets)
        else none

end Files
end QueryBatch
