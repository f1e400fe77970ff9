/-!
# Octets as text

`decode?` reads a sequence of octets as UTF-8 and refuses the first octet that cannot stand
there; `encode` is the other direction.
-/

namespace QueryBatch
namespace Text
namespace Utf8

/-- The octets of one code point. -/
def encodeChar (c : Char) : List Nat :=
  let n := c.toNat
  if n < 0x80 then [n]
  else if n < 0x800 then [0xC0 + n / 64, 0x80 + n % 64]
  else if n < 0x10000 then [0xE0 + n / 4096, 0x80 + n / 64 % 64, 0x80 + n % 64]
  else [0xF0 + n / 262144, 0x80 + n / 4096 % 64, 0x80 + n / 64 % 64, 0x80 + n % 64]

/-- The octets of a text. -/
def encode (cs : List Char) : List Nat := cs.flatMap encodeChar

/-- Whether an octet continues a character. -/
def isTail (b : Nat) : Bool := 0x80 ≤ b && b ≤ 0xBF

/-- The text of a sequence of octets, if they are UTF-8: no overlong form, no surrogate, nothing
above U+10FFFF. -/
def decode? : List Nat → Option (List Char)
  | [] => some []
  | a :: rest =>
      if a < 0x80 then (decode? rest).map (Char.ofNat a :: ·)
      else if a < 0xE0 then
        match rest with
        | b :: rest =>
            if 0xC2 ≤ a && isTail b then
              (decode? rest).map (Char.ofNat ((a - 0xC0) * 64 + (b - 0x80)) :: ·)
            else none
        | _ => none
      else if a < 0xF0 then
        match rest with
        | b :: c :: rest =>
            let n := (a - 0xE0) * 4096 + (b - 0x80) * 64 + (c - 0x80)
            if isTail b && isTail c && 0x800 ≤ n && !(0xD800 ≤ n && n ≤ 0xDFFF) then
              (decode? rest).map (Char.ofNat n :: ·)
            else none
        | _ => none
      else
        match rest with
        | b :: c :: d :: rest =>
            let n := (a - 0xF0) * 262144 + (b - 0x80) * 4096 + (c - 0x80) * 64 + (d - 0x80)
            if isTail b && isTail c && isTail d && 0x10000 ≤ n && n ≤ 0x10FFFF then
              (decode? rest).map (Char.ofNat n :: ·)
            else none
        | _ => none

end Utf8
end Text
end QueryBatch
