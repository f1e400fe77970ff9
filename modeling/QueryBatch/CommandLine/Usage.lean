import QueryBatch.Uuid

/-!
# Values on a command line

Why a command line is not understood, and how the texts on it are read as values. Numbers are
written in decimal digits, with a plus sign or leading zeros if one likes.
-/

namespace QueryBatch
namespace CommandLine

/-- Why a command line, or the environment beside it, asks for nothing that can be done. -/
inductive UsageError
  /-- Help was asked for. -/
  | helpWanted
  /-- The version was asked for. -/
  | versionWanted
  /-- Nothing was asked for. -/
  | nothingWanted
  | unknownCommand (name : String)
  | missingCommand
  | unknownArgument (text : String)
  /-- An option without its value, or with one that it does not know. -/
  | invalidValue (argument : String)
  /-- A value that cannot be read. -/
  | unreadableValue (argument : String)
  /-- A value of an option that takes none. -/
  | unneededValue (argument : String)
  /-- An option that was given twice. -/
  | repeated (argument : String)
  | missingArgument (argument : String)
  /-- A variable that holds no text. -/
  | notUnicode (argument : String)
  deriving DecidableEq, Repr

/-- The wording of a refusal. -/
def UsageError.message : UsageError → String
  | .helpWanted | .versionWanted => ""
  | .nothingWanted | .missingCommand => "a command is required"
  | .unknownCommand name => "unrecognized command " ++ name
  | .unknownArgument text => "unexpected argument " ++ text
  | .invalidValue argument => "invalid or missing value for " ++ argument
  | .unreadableValue argument => "unreadable value for " ++ argument
  | .unneededValue argument => "unexpected value for " ++ argument
  | .repeated argument => argument ++ " cannot be used multiple times"
  | .missingArgument argument => argument ++ " is required"
  | .notUnicode argument => "invalid text for " ++ argument

/-- A way to read a value of an argument. -/
abbrev ValueReader (α : Type) := (argument text : String) → Except UsageError α

namespace ValueReader

/-- The number that decimal digits write. -/
def digits? (cs : List Char) : Option Nat :=
  if cs.isEmpty || !cs.all Char.isDigit then none
  else some (cs.foldl (fun n c => n * 10 + (c.toNat - 48)) 0)

/-- The number that digits with an optional plus sign write. -/
def natural? : List Char → Option Nat
  | '+' :: cs => digits? cs
  | cs => digits? cs

/-- The number that digits with an optional sign write. -/
def integer? : List Char → Option Int
  | '-' :: cs => (digits? cs).map fun n => -(n : Int)
  | cs => (natural? cs).map Int.ofNat

/-- A value, or a refusal if there is none. -/
def orRefuse (f : List Char → Option α) : ValueReader α := fun argument text =>
  match f text.toList with
  | some a => .ok a
  | none => .error (.unreadableValue argument)

/-- Any text. -/
def text : ValueReader String := fun _ text => .ok text

/-- The text of a path, which is not empty. -/
def path : ValueReader String := fun argument text =>
  if text = "" then .error (.invalidValue argument) else .ok text

/-- An integer of a range that starts at zero. -/
def below (bound : Nat) : ValueReader Nat := orRefuse fun cs => do
  let n ← integer? cs
  if 0 ≤ n ∧ n < bound then some n.toNat else none

/-- A natural number below a bound. -/
def naturalBelow (bound : Nat) : ValueReader Nat := orRefuse fun cs => do
  let n ← natural? cs
  if n < bound then some n else none

/-- A positive number of 32 bits. -/
def positive : ValueReader Nat := orRefuse fun cs => do
  let n ← natural? cs
  if 0 < n ∧ n < UInt32.size then some n else none

/-- An identifier. -/
def uuid : ValueReader Uuid := orRefuse fun cs => (Uuid.parse (String.ofList cs)).toOption

/-- A truth value, as a variable writes it. -/
def bool : ValueReader Bool := fun argument text =>
  if text = "true" then .ok true
  else if text = "false" then .ok false
  else .error (.invalidValue argument)

end ValueReader
end CommandLine
end QueryBatch
