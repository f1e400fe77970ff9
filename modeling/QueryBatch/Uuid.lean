/-!
# Universally unique identifiers

An identifier is a number of 128 bits. It is written as 32 hexadecimal digits in groups of 8, 4, 4,
4 and 12. It is read from that form, from the bare digits, between braces, or after `urn:uuid:`.
-/

namespace QueryBatch

/-- An identifier of 128 bits. -/
structure Uuid where
  value : Fin 0x100000000000000000000000000000000
  deriving DecidableEq, Repr, Inhabited

namespace Uuid

/-- Hexadecimal digits of a number, padded with zeros to a width. -/
def hexPadded (width n : Nat) : List Char :=
  let ds := Nat.toDigits 16 n
  List.replicate (width - ds.length) '0' ++ ds

/-- Digits with hyphens after the first, second, third and fourth group. -/
def hyphenate (ds : List Char) : List Char :=
  ds.take 8 ++ '-' :: (ds.drop 8).take 4 ++ '-' :: (ds.drop 12).take 4 ++ '-' ::
    (ds.drop 16).take 4 ++ '-' :: ds.drop 20

/-- The hyphenated form. -/
def text (u : Uuid) : String := String.ofList (hyphenate (hexPadded 32 u.value.val))

/-- Why a text is not an identifier. -/
inductive Malformed
  | character (c : Char) (index : Nat)
  | simpleLength (length : Nat)
  | groupCount (count : Nat)
  | groupLength (group expected length : Nat)

/-- The wording of a refusal. -/
def Malformed.message : Malformed → String
  | .character c index =>
      "invalid character: expected an optional prefix of `urn:uuid:` followed by [0-9a-fA-F-], "
        ++ "found `" ++ String.singleton c ++ "` at " ++ toString index
  | .simpleLength n => "invalid length: expected length 32 for simple format, found " ++ toString n
  | .groupCount n => "invalid group count: expected 5, found " ++ toString n
  | .groupLength group expected n =>
      "invalid group length in group " ++ toString group ++ ": expected " ++ toString expected
        ++ ", found " ++ toString n

/-- The value of a hexadecimal digit. -/
def hexDigit? (c : Char) : Option Nat :=
  if '0' ≤ c ∧ c ≤ '9' then some (c.toNat - '0'.toNat)
  else if 'a' ≤ c ∧ c ≤ 'f' then some (c.toNat - 'a'.toNat + 10)
  else if 'A' ≤ c ∧ c ≤ 'F' then some (c.toNat - 'A'.toNat + 10)
  else none

/-- The number spelled by hexadecimal digits. -/
def ofHex? (ds : List Char) : Option Nat :=
  ds.foldl (fun acc c => do return (← acc) * 16 + (← hexDigit? c)) (some 0)

/-- The identifier spelled by 32 digits. -/
def ofDigits? (ds : List Char) : Option Uuid :=
  if ds.length = 32 then (ofHex? ds).map fun n => ⟨Fin.ofNat _ n⟩ else none

/-- The identifier spelled by digits in hyphenated groups. -/
def ofGroups? (cs : List Char) : Option Uuid :=
  let ds := cs.take 8 ++ (cs.drop 9).take 4 ++ (cs.drop 14).take 4 ++ (cs.drop 19).take 4
    ++ cs.drop 24
  if cs.length = 36 ∧ hyphenate ds = cs then ofDigits? ds else none

/-- What stands between braces or after the prefix of a resource name, and where that starts. -/
def body (cs : List Char) : Option (List Char × Nat) :=
  match cs with
  | '\x7b' :: rest =>
      if rest.getLast? = some '\x7d' then some (rest.dropLast, 1) else none
  | _ =>
      let lead := "urn:uuid:".toList
      if lead.isPrefixOf cs then some (cs.drop lead.length, lead.length) else none

/-- Sum of the sizes of characters in octets. -/
def size (cs : List Char) : Nat := (cs.map Char.utf8Size).foldr (· + ·) 0

/-- The first character that is neither a hyphen nor a digit, with its place counted in octets. -/
def stray? : Nat → List Char → Option (Char × Nat)
  | _, [] => none
  | index, c :: rest =>
      if c = '-' ∨ (hexDigit? c).isSome then stray? (index + c.utf8Size) rest else some (c, index)

/-- The places of the hyphens. -/
def hyphens : Nat → List Char → List Nat
  | _, [] => []
  | index, c :: rest =>
      if c = '-' then index :: hyphens (index + 1) rest else hyphens (index + c.utf8Size) rest

/-- Where each group starts in the hyphenated form. -/
def groupStarts : List Nat := [0, 9, 14, 19, 24]

/-- The lengths of the groups. -/
def groupLengths : List Nat := [8, 4, 4, 4, 12]

/-- The first of the first four groups that does not end where it should. -/
def wrongGroup? : Nat → List Nat → List Nat → List Nat → Option Malformed
  | group, bound :: bounds, start :: starts, length :: lengths =>
      if bound = start + length then wrongGroup? (group + 1) bounds starts lengths
      else some (.groupLength group length (bound - start))
  | _, _, _, _ => none

/-- What is wrong with a text that is not an identifier. -/
def diagnose (cs : List Char) : Malformed :=
  let (inner, offset, bare) :=
    match body cs with
    | some (inner, offset) => (inner, offset, false)
    | none => (cs, 0, true)
  match stray? 0 inner with
  | some (c, index) => .character c (index + offset + 1)
  | none =>
      let bounds := hyphens 0 inner
      if bounds.length = 0 ∧ bare then .simpleLength (size cs)
      else if bounds.length ≠ 4 then .groupCount (bounds.length + 1)
      else (wrongGroup? 0 bounds groupStarts groupLengths).getD (.groupLength 4 12 (size cs - 24))

/-- Read an identifier in any of its forms. -/
def parse (s : String) : Except Malformed Uuid :=
  let cs := s.toList
  let read :=
    match ofDigits? cs with
    | some u => some u
    | none =>
        match body cs with
        | some (inner, _) => ofGroups? inner
        | none => ofGroups? cs
  match read with
  | some u => .ok u
  | none => .error (diagnose cs)

/-- The identifier made of random bits: they fill all places but the six that tell its version and
its variant. -/
def ofRandom (bits : Nat) : Uuid :=
  ⟨⟨(bits >>> 80 % 0x1000000000000) <<< 80 + 4 <<< 76 + (bits >>> 64 % 0x1000) <<< 64 + 2 <<< 62
      + bits % 0x4000000000000000, by omega⟩⟩

end Uuid
end QueryBatch
