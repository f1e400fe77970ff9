import QueryBatch.Text.Blank

/-!
# Hosts

A host is named, or given by an address. An address of version 6 holds colons, which end a host in
a URL, and so may stand in brackets. `isIpv6` reads such an address: groups of up to four
hexadecimal digits between colons, eight of them, or fewer with `::` in the place of those that are
missing; an address of version 4 may stand for the last two.
-/

namespace QueryBatch
namespace Configuration
namespace Host

/-- Whether a character is a hexadecimal digit. -/
def isHexDigit (c : Char) : Bool :=
  c.isDigit || ('a' ≤ c && c ≤ 'f') || ('A' ≤ c && c ≤ 'F')

/-- What follows a group of one to four hexadecimal digits. -/
def group? (cs : List Char) : Option (List Char) :=
  let digits := cs.takeWhile isHexDigit
  if 1 ≤ digits.length ∧ digits.length ≤ 4 then some (cs.dropWhile isHexDigit) else none

/-- The value of decimal digits. -/
def decimal (digits : List Char) : Nat := digits.foldl (fun n c => n * 10 + (c.toNat - 48)) 0

/-- What follows a decimal number below 256 that is written without leading zeros. -/
def octet? (cs : List Char) : Option (List Char) :=
  let digits := cs.takeWhile Char.isDigit
  if 1 ≤ digits.length ∧ digits.length ≤ 3 ∧ decimal digits < 256
      ∧ (digits.length = 1 ∨ digits.head? ≠ some '0') then
    some (cs.dropWhile Char.isDigit)
  else none

/-- What follows a character. -/
def after? (c : Char) : List Char → Option (List Char)
  | [] => none
  | d :: rest => if d = c then some rest else none

/-- What follows an address of version 4. -/
def dotted? (cs : List Char) : Option (List Char) := do
  let cs ← octet? cs
  let cs ← octet? (← after? '.' cs)
  let cs ← octet? (← after? '.' cs)
  octet? (← after? '.' cs)

/-- What follows the colon that separates a group from the one before, if there is one before. -/
def separated? (first : Bool) (cs : List Char) : Option (List Char) :=
  if first then some cs else after? ':' cs

/-- How groups end. -/
structure Groups where
  /-- How many more groups there is room for. -/
  room : Nat
  /-- Whether the last two are an address of version 4. -/
  dotted : Bool
  rest : List Char

/-- As many groups as there are, up to a number. -/
def groups : Nat → Bool → List Char → Groups
  | 0, _, cs => ⟨0, false, cs⟩
  | room + 1, first, cs =>
      let here := separated? first cs
      match (if room = 0 then none else here.bind dotted?), here.bind group? with
      | some rest, _ => ⟨room - 1, true, rest⟩
      | none, some rest => groups room false rest
      | none, none => ⟨room + 1, false, cs⟩

/-- Whether a text is an address of version 6. -/
def isIpv6 (cs : List Char) : Bool :=
  let head := groups 8 true cs
  match head.room with
  | 0 => head.rest.isEmpty
  | room + 1 =>
      !head.dotted &&
        match (after? ':' head.rest).bind (after? ':') with
        | some cs => (groups room true cs).rest.isEmpty
        | none => false

/-- What stands between a bracket at the start and one at the end. -/
def bracketed? : List Char → Option (List Char)
  | '[' :: rest => if rest.getLast? = some ']' then some rest.dropLast else none
  | _ => none

/-- Whether a character can stand in the name of a host. -/
def isNameChar (c : Char) : Bool := !(Text.isBlank c || ['/', '?', '#', '@', '[', ']'].contains c)

/-- Whether a text can be a host: an address of version 6, with or without brackets, or a text
without colons, blanks and the characters that mean something else in a URL. -/
def isValid (cs : List Char) : Bool :=
  match cs with
  | '[' :: _ => (bracketed? cs).any isIpv6
  | _ => if cs.contains ':' then isIpv6 cs else cs.all isNameChar

/-- The host as it stands in a URL. -/
def inUrl (cs : List Char) : List Char := if isIpv6 cs then '[' :: (cs ++ [']']) else cs

/-- The host as it is given to the driver. -/
def forDriver (cs : List Char) : List Char := (bracketed? cs).getD cs

end Host
end Configuration
end QueryBatch
