import QueryBatch.Text.Utf8

/-!
# Environment variables

Where secrets come from that are not written into a configuration.
-/

namespace QueryBatch
namespace Configuration

/-- What an environment variable is set to. -/
inductive Setting
  | text (value : String)
  /-- Octets that are no text. -/
  | octets (raw : List Nat) (malformed : Text.Utf8.decode? raw = none)
  deriving DecidableEq, Repr

/-- Octets as a setting. -/
def Setting.ofOctets (raw : List Nat) : Setting :=
  match h : Text.Utf8.decode? raw with
  | some cs => .text (String.ofList cs)
  | none => .octets raw h

/-- The variables that are set. -/
def Environment : Type := String → Option Setting

/-- Why a variable cannot be read. -/
inductive EnvironmentError
  | notPresent (name : String)
  | notUnicode (name : String)
  deriving DecidableEq, Repr

/-- The wording of an error. -/
def EnvironmentError.message : EnvironmentError → String
  | .notPresent name => "the environment variable " ++ name ++ " is not set"
  | .notUnicode name => "the environment variable " ++ name ++ " is not valid unicode"

namespace Environment

/-- No variable is set. -/
def empty : Environment := fun _ => none

/-- The environment with one more variable, or another setting of it. -/
def set (environment : Environment) (name : String) (setting : Setting) : Environment :=
  fun wanted => if wanted = name then some setting else environment wanted

/-- The variables of a list, where a later setting overrides an earlier one. -/
def ofList (settings : List (String × Setting)) : Environment :=
  settings.foldl (fun environment (name, setting) => environment.set name setting) empty

/-- The text of a variable. -/
def read (environment : Environment) (name : String) : Except EnvironmentError String :=
  match environment name with
  | some (.text value) => .ok value
  | some (.octets ..) => .error (.notUnicode name)
  | none => .error (.notPresent name)

end Environment
end Configuration
end QueryBatch
