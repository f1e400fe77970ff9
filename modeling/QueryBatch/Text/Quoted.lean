import QueryBatch.Text.Concealed

/-!
# Quoted texts

The form in which a text is shown to a person: between double quotes, with short escapes for the
quote, the backslash and four control characters, and with the number of every other character
that has no visible shape of its own.
-/

namespace QueryBatch
namespace Text

/-- Hexadecimal digits of a number, lower case, without leading zeros. -/
def hexDigits (n : Nat) : List Char := Nat.toDigits 16 n

/-- A character inside a quoted text. -/
def quotedChar (c : Char) : List Char :=
  match c with
  | '"' => ['\\', '"']
  | '\\' => ['\\', '\\']
  | '\n' => ['\\', 'n']
  | '\r' => ['\\', 'r']
  | '\t' => ['\\', 't']
  | '\x00' => ['\\', '0']
  | c =>
      if isConcealed c then '\\' :: 'u' :: '\x7b' :: (hexDigits c.toNat ++ ['\x7d'])
      else [c]

/-- A text between quotes. -/
def quoted (s : String) : String :=
  String.ofList ('"' :: (s.toList.flatMap quotedChar ++ ['"']))

/-- Texts with `sep` between neighbours. -/
def joinWith (sep : String) (parts : List String) : String :=
  sep.intercalate parts

end Text
end QueryBatch
