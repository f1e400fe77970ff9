import QueryBatch.CommandLine.Usage
import QueryBatch.Configuration.Environment

/-!
# Options, positions and commands

A command line is read from left to right at a `Level`: options first, then a command, whose own
level reads what follows. An option is written `--name value` or `--name=value`, and after `--`
there are no more options. A value is only looked at when the next argument shows that it is
complete, so of two mistakes the one that is noticed first is told. What is not on the command line
is taken from the environment.
-/

namespace QueryBatch
namespace CommandLine

open QueryBatch.Configuration (Environment Setting)

/-- What happens to a value that was given. -/
abbrev Take (σ : Type) := String → σ → Except UsageError σ

/-- An argument that takes one value, kept in a record. -/
structure Valued (σ : Type) where
  /-- What it is called in messages. -/
  title : String
  /-- Whether it was given and cannot be given again. -/
  complete : σ → Bool
  /-- Whether it was given at all. -/
  given : σ → Bool
  take : Take σ

/-- What an option does. -/
inductive Effect (σ : Type)
  | valued (argument : Valued σ)
  /-- It is there or not; in the environment its value is written. -/
  | flag (argument : Valued σ)
  | help
  | version

/-- An option. -/
structure OptionSpec (σ : Type) where
  name : String
  /-- The letter that also names it. -/
  letter? : Option Char := none
  /-- The variable that it is taken from if it is not on the command line. -/
  source? : Option String := none
  effect : Effect σ

/-- What can stand on a command line. -/
structure Level (σ : Type) where
  options : List (OptionSpec σ)
  positions : List (Valued σ) := []
  commands : List String := []

/-- A reading on the way: the record, and the argument that was named last with the value given to
it, if it is not in the record yet. -/
structure Progress (σ : Type) where
  record : σ
  pending : Option (Valued σ × Option String) := none

/-- The title of an option. -/
def optionTitle (name : String) : String := "--" ++ name

/-- An option for one value. -/
def single (name : String) (source? : Option String) (reader : ValueReader α)
    (get : σ → Option α) (set : α → σ → σ) : OptionSpec σ where
  name := name
  source? := source?
  effect := .valued
    { title := optionTitle name
      complete := fun s => (get s).isSome
      given := fun s => (get s).isSome
      take := fun text s => do return set (← reader (optionTitle name) text) s }

/-- An option for one value each time it is given. -/
def repeatable (name : String) (get : σ → List String) (set : List String → σ → σ) :
    OptionSpec σ where
  name := name
  effect := .valued
    { title := optionTitle name
      complete := fun _ => false
      given := fun s => !(get s).isEmpty
      take := fun text s => .ok (set (get s ++ [text]) s) }

/-- An option that is there or not. -/
def flag (name : String) (source? : Option String) (get : σ → Option Bool)
    (set : Bool → σ → σ) : OptionSpec σ where
  name := name
  source? := source?
  effect := .flag
    { title := optionTitle name
      complete := fun s => (get s).isSome
      given := fun s => (get s).isSome
      take := fun text s => do return set (← ValueReader.bool (optionTitle name) text) s }

/-- The position of one value. -/
def position (title : String) (reader : ValueReader α) (get : σ → Option α) (set : α → σ → σ) :
    Valued σ where
  title := title
  complete := fun s => (get s).isSome
  given := fun s => (get s).isSome
  take := fun text s => do return set (← reader title text) s

/-- Put a value into the record. -/
def Valued.put (argument : Valued σ) (value : String) (record : σ) : Except UsageError σ :=
  if argument.complete record then .error (.repeated argument.title)
  else argument.take value record

namespace Progress

/-- Put what is pending into the record. -/
def resolve (p : Progress σ) : Except UsageError (Progress σ) :=
  match p.pending with
  | none => .ok p
  | some (argument, none) => .error (.invalidValue argument.title)
  | some (argument, some value) => do return { record := ← argument.put value p.record }

/-- Put a value into the record, after what is pending. -/
def put (p : Progress σ) (argument : Valued σ) (value : String) :
    Except UsageError (Progress σ) := do
  let p ← p.resolve
  return { p with record := ← argument.put value p.record }

/-- Name an argument whose value comes later, or is here. -/
def name (p : Progress σ) (argument : Valued σ) (value : Option String) :
    Except UsageError (Progress σ) := do
  return { ← p.resolve with pending := some (argument, value) }

/-- The argument that waits for its value. -/
def awaiting? (p : Progress σ) : Option (Valued σ) :=
  match p.pending with
  | some (argument, none) => some argument
  | _ => none

end Progress

/-- How an argument is written. -/
inductive Form
  /-- The end of the options. -/
  | dashes
  /-- An option by its name, and its value if that is attached. -/
  | long (name : String) (value : Option String)
  /-- An option by its letter. -/
  | short (letter : Char)
  | plain
  deriving DecidableEq, Repr

/-- The form of an argument. -/
def Form.of (text : String) : Form :=
  match text.toList with
  | ['-', '-'] => .dashes
  | '-' :: '-' :: rest =>
      let name := String.ofList (rest.takeWhile (· ≠ '='))
      match rest.dropWhile (· ≠ '=') with
      | _ :: value => .long name (some (String.ofList value))
      | [] => .long name none
  | '-' :: letter :: _ => .short letter
  | _ => .plain

namespace Level

/-- Take an option, with its value if that is attached. -/
def takeOption (p : Progress σ) (option : OptionSpec σ) (value : Option String) :
    Except UsageError (Progress σ) :=
  match option.effect, value with
  | .valued argument, some value => p.put argument value
  | .valued argument, none => p.name argument none
  | _, some _ => .error (.unneededValue (optionTitle option.name))
  | .flag argument, none => p.put argument "true"
  | .help, none => do
      let _ ← p.resolve
      .error .helpWanted
  | .version, none => do
      let _ ← p.resolve
      .error .versionWanted

/-- Take an option by its name. -/
def takeLong (level : Level σ) (p : Progress σ) (name : String) (value : Option String) :
    Except UsageError (Progress σ) :=
  match level.options.find? (fun option => option.name = name) with
  | some option => takeOption p option value
  | none => .error (.unknownArgument (optionTitle name))

/-- Take an option by its letter. -/
def takeShort (level : Level σ) (p : Progress σ) (letter : Char) :
    Except UsageError (Progress σ) :=
  match level.options.find? (fun option => option.letter? = some letter) with
  | some option => takeOption p option none
  | none => .error (.unknownArgument (String.ofList ['-', letter]))

/-- Refuse an argument that has no position. -/
def misplaced (level : Level σ) (dashed : Bool) (text : String) : UsageError :=
  if level.commands.isEmpty || dashed && level.commands.contains text then .unknownArgument text
  else .unknownCommand text

/-- Read arguments up to their end or to a command; `positions` are those that are left, and
`dashed` says whether the options have ended. The answer holds the command and what follows it. -/
def read (level : Level σ) : List (Valued σ) → Bool → Progress σ → List String →
    Except UsageError (Progress σ × Option (String × List String))
  | _, _, p, [] => .ok (p, none)
  | positions, dashed, p, text :: rest =>
      if !dashed && p.awaiting?.isNone && level.commands.contains text then
        .ok (p, some (text, rest))
      else
        match (if dashed then .plain else Form.of text), p.awaiting?, dashed with
        | .dashes, _, _ => level.read positions true p rest
        | .long name value, _, _ => do
            level.read positions dashed (← level.takeLong p name value) rest
        | .short letter, _, _ => do
            level.read positions dashed (← level.takeShort p letter) rest
        | .plain, some argument, false =>
            level.read positions dashed { p with pending := some (argument, some text) } rest
        | .plain, _, _ =>
            match positions with
            | argument :: positions => do
                level.read positions dashed (← p.name argument (some text)) rest
            | [] => .error (level.misplaced dashed text)

/-- Take an option from the environment, if it is there and not on the command line. -/
def takeVariable (environment : Environment) (record : σ) (option : OptionSpec σ) :
    Except UsageError σ :=
  match option.effect, option.source?.bind environment with
  | .valued argument, some setting | .flag argument, some setting =>
      if argument.given record then .ok record
      else
        match option.effect, setting with
        | .flag _, .octets .. => .error (.invalidValue argument.title)
        | _, .octets .. => .error (.notUnicode argument.title)
        | _, .text value => argument.put value record
  | _, _ => .ok record

/-- Finish a reading: what is pending, and then the environment. -/
def finish (level : Level σ) (environment : Environment) (p : Progress σ) :
    Except UsageError σ := do
  level.options.foldlM (takeVariable environment) (← p.resolve).record

/-- Whether anything was given. -/
def anyGiven (level : Level σ) (record : σ) : Bool :=
  level.options.any fun option =>
    match option.effect with
    | .valued argument | .flag argument => argument.given record
    | _ => false

end Level
end CommandLine
end QueryBatch
