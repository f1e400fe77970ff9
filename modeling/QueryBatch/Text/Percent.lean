import QueryBatch.Text.Utf8

/-!
# Percent encoding

The form in which a text stands as one part of a URL: letters and digits of ASCII and the four
characters `-`, `.`, `_` and `~` stand for themselves, and every other character is written as its
octets, each as a percent sign with two hexadecimal digits. `decode?` is the other direction.
-/

namespace QueryBatch
namespace Text
namespace Percent

/-- Whether a character stands for itself. -/
def isPlain (c : Char) : Bool := c.isAlphanum || c = '-' || c = '.' || c = '_' || c = '~'

/-- A hexadecimal digit, upper case. -/
def hexDigit (n : Nat) : Char := if n < 10 then Char.ofNat (48 + n) else Char.ofNat (55 + n)

/-- The value of a hexadecimal digit of either case. -/
def hexValue? (c : Char) : Option Nat :=
  if '0' ≤ c ∧ c ≤ '9' then some (c.toNat - 48)
  else if 'A' ≤ c ∧ c ≤ 'F' then some (c.toNat - 55)
  else if 'a' ≤ c ∧ c ≤ 'f' then some (c.toNat - 87)
  else none

/-- An octet as a percent sign with two digits. -/
def encodeOctet (b : Nat) : List Char := ['%', hexDigit (b / 16), hexDigit (b % 16)]

/-- A character as a part of a URL. -/
def encodeChar (c : Char) : List Char :=
  if isPlain c then [c] else (Utf8.encodeChar c).flatMap encodeOctet

/-- A text as a part of a URL. -/
def encode (cs : List Char) : List Char := cs.flatMap encodeChar

/-- The octets that an encoded text stands for. A percent sign without two digits stands for
itself. -/
def octets : List Char → List Nat
  | '%' :: a :: b :: rest =>
      match hexValue? a, hexValue? b with
      | some high, some low => (high * 16 + low) :: octets rest
      | _, _ => 0x25 :: octets (a :: b :: rest)
  | c :: rest => Utf8.encodeChar c ++ octets rest
  | [] => []

/-- The text that was encoded, if its octets are a text. -/
def decode? (cs : List Char) : Option (List Char) := Utf8.decode? (octets cs)

end Percent
end Text
end QueryBatch
