import QueryBatch.Configuration.Environment
import QueryBatch.Json.Record

/-!
# Secrets

A secret is written down, or names the environment variable that holds it. In JSON the first is a
text and the second an object with the field `variable`. Showing a secret never shows a text that is
written down.
-/

namespace QueryBatch
namespace Configuration

/-- A text that is written down or read from the environment. -/
inductive Secret
  | plain (value : String)
  | fromEnvironment (name : String)
  deriving DecidableEq, Inhabited

namespace Secret

/-- What marks the name of a variable in a text. -/
def mark : String := "env:"

/-- The variable named after the mark, or else the text as it is. -/
def parse (text : String) : Secret :=
  if mark.toList.isPrefixOf text.toList then
    .fromEnvironment (String.ofList (text.toList.drop mark.length))
  else .plain text

/-- The text that is kept secret. -/
def resolve (secret : Secret) (environment : Environment) : Except EnvironmentError String :=
  match secret with
  | .plain value => .ok value
  | .fromEnvironment name => environment.read name

/-- Whether there is nothing written, no text and no name. -/
def isEmpty : Secret → Bool
  | .plain value => value = ""
  | .fromEnvironment name => name = ""

/-- The secret as shown to a person. -/
def shown : Secret → String
  | .plain _ => "Plain(<redacted>)"
  | .fromEnvironment name =>
      "FromEnvironment \x7b variable: " ++ Text.quoted name ++ " \x7d"

/-- The secret in JSON. -/
def toJson : Secret → Json
  | .plain value => .string value
  | .fromEnvironment name => .object [("variable", .string name)]

/-- The secret that a JSON value stands for: a text, or an object with one field `variable`, which
is a text, and any other fields. -/
def ofJson? : Json → Option Secret
  | .string value => some (.plain value)
  | .object fields =>
      match fields.filter fun field => field.1 = "variable" with
      | [(_, .string name)] => some (.fromEnvironment name)
      | _ => none
  | _ => none

/-- Read a secret. -/
def reader : Json.Reader Secret := do
  match ofJson? (← Json.Reader.value) with
  | some secret => return secret
  | none => throw ⟨.rejected "data did not match any variant of untagged enum Secret", none⟩

end Secret
end Configuration
end QueryBatch
