import QueryBatch.Json.Cursor

/-!
# Reading JSON texts

Strings, numbers and values, each with the fault that a malformed text is refused for. `skipValue`
steps over a value that nobody asked for; it looks at less than `value` does, so it accepts a few
texts that `value` refuses.
-/

namespace QueryBatch
namespace Json
namespace Reader

/-- The value of a hexadecimal digit. -/
def hexValue? (c : Char) : Option Nat :=
  if '0' ≤ c ∧ c ≤ '9' then some (c.toNat - '0'.toNat)
  else if 'a' ≤ c ∧ c ≤ 'f' then some (c.toNat - 'a'.toNat + 10)
  else if 'A' ≤ c ∧ c ≤ 'F' then some (c.toNat - 'A'.toNat + 10)
  else none

/-- The cursor some octets further. -/
def skipOctets : Nat → Cursor → Cursor
  | 0, c => c
  | n + 1, c =>
      match c.rest with
      | [] => c
      | ch :: _ =>
          if ch.utf8Size ≤ n + 1 then skipOctets (n + 1 - ch.utf8Size) c.next
          else { c with position := c.position.after ch (n + 1) }
termination_by n => n
decreasing_by
  have := ch.utf8Size_pos
  omega

/-- The number of octets of some characters. -/
def octets (cs : List Char) : Nat := (cs.map Char.utf8Size).foldr (· + ·) 0

/-- Four hexadecimal digits. -/
def hexEscape : Reader Nat := do
  let c ← get
  match c.rest with
  | a :: b :: d :: e :: _ =>
      match hexValue? a, hexValue? b, hexValue? d, hexValue? e with
      | some a, some b, some d, some e =>
          set (skipOctets 4 c)
          return ((a * 16 + b) * 16 + d) * 16 + e
      | _, _, _, _ =>
          set (skipOctets 4 c)
          failHere .invalidEscape
  | rest =>
      set (skipOctets 4 c)
      failHere (if octets rest < 4 then .endInString else .invalidEscape)

/-- One character of an escape that has to follow. -/
def expectInEscape (wanted : Char) : Reader Unit := do
  match ← peek with
  | none => failHere .endInString
  | some ch =>
      if ch = wanted then advance
      else
        modify (skipOctets 1)
        failHere .endOfHexEscape

/-- The character spelled by number after a backslash and a `u`. -/
def numberedChar : Reader Char := do
  let n ← hexEscape
  if 0xDC00 ≤ n ∧ n ≤ 0xDFFF then failHere .loneSurrogate
  else if n < 0xD800 ∨ 0xDBFF < n then return Char.ofNat n
  else
    expectInEscape '\\'
    expectInEscape 'u'
    let low ← hexEscape
    if low < 0xDC00 ∨ 0xDFFF < low then failHere .loneSurrogate
    else return Char.ofNat ((n - 0xD800) * 1024 + (low - 0xDC00) + 0x10000)

/-- The character meant by the one after a backslash, if that has a short escape. -/
def shortEscape? (c : Char) : Option Char :=
  match c with
  | '"' => some '"'
  | '\\' => some '\\'
  | '/' => some '/'
  | 'b' => some '\x08'
  | 'f' => some '\x0C'
  | 'n' => some '\n'
  | 'r' => some '\r'
  | 't' => some '\t'
  | _ => none

/-- The character meant by an escape, after its backslash. -/
def escape : Reader Char := do
  match ← peek with
  | none => failHere .endInString
  | some 'u' =>
      advance
      numberedChar
  | some ch =>
      match shortEscape? ch with
      | some meant =>
          advance
          return meant
      | none =>
          modify (skipOctets 1)
          failHere .invalidEscape

/-- The characters of a string after its opening quote, in reverse order before `done`. -/
def stringChars : Nat → List Char → Reader String
  | 0, _ => failHere .endInString
  | fuel + 1, done => do
      match ← peek with
      | none => failHere .endInString
      | some '"' =>
          advance
          return String.ofList done.reverse
      | some '\\' =>
          advance
          let ch ← escape
          stringChars fuel (ch :: done)
      | some ch =>
          advance
          if ch.toNat < 0x20 then failHere .controlCharacter
          else stringChars fuel (ch :: done)

/-- A string after its opening quote. -/
def stringTail : Reader String := do stringChars (← budget) []

/-- Step over a string after its opening quote, without looking at what its numbers spell. -/
def skipChars : Nat → Reader Unit
  | 0 => failHere .endInString
  | fuel + 1 => do
      match ← peek with
      | none => failHere .endInString
      | some '"' => advance
      | some '\\' =>
          advance
          match ← peek with
          | none => failHere .endInString
          | some 'u' =>
              advance
              let _ ← hexEscape
              skipChars fuel
          | some ch =>
              modify (skipOctets 1)
              if (shortEscape? ch).isSome then skipChars fuel else failHere .invalidEscape
      | some ch =>
          if ch.toNat < 0x20 then failHere .controlCharacter
          else
            advance
            skipChars fuel

/-- The letters that complete a word. -/
def identifier : List Char → Reader Unit
  | [] => return
  | wanted :: rest => do
      match ← peek with
      | none => failHere .endInValue
      | some ch =>
          if ch = wanted then
            advance
            identifier rest
          else
            modify (skipOctets 1)
            failHere .expectedIdentifier

/-- The digits ahead as long as their value stays at most `limit`: the value of `value` followed by
them, and `count` more for each. -/
def digitsWithin (limit : Nat) : Nat → Nat → Nat → Reader (Nat × Nat)
  | 0, value, count => return (value, count)
  | fuel + 1, value, count => do
      match ← peek with
      | some ch =>
          let longer := value * 10 + (ch.toNat - '0'.toNat)
          if ch.isDigit && longer ≤ limit then
            advance
            digitsWithin limit fuel longer (count + 1)
          else return (value, count)
      | none => return (value, count)

/-- Step over the digits ahead and count them. -/
def skipDigits : Nat → Nat → Reader Nat
  | 0, count => return count
  | fuel + 1, count => do
      match ← peek with
      | some ch =>
          if ch.isDigit then
            advance
            skipDigits fuel (count + 1)
          else return count
      | none => return count

/-- The greatest value of the digits of a number that count. -/
def greatestSignificand : Nat := UInt64.size - 1

/-- The greatest value of the digits of an exponent. -/
def greatestExponent : Nat := 0x7FFFFFFF

/-- The number `significand * 10 ^ exponent`. -/
def floating (negative : Bool) (significand : Nat) (exponent : Int) : Reader JsonNumber :=
  match Binary64.scaled negative significand exponent with
  | some x => return .float x
  | none => failHere .numberOutOfRange

/-- The part of a number from its `e` on. -/
def exponentPart (negative : Bool) (significand : Nat) (exponent : Int) : Reader JsonNumber := do
  advance
  let sign ← peek
  if sign = some '+' ∨ sign = some '-' then advance
  match ← peek with
  | none => failHere .endInValue
  | some ch =>
      if ch.isDigit then
        let (e, _) ← digitsWithin greatestExponent (← budget) 0 0
        match ← peek with
        | some ch =>
            if ch.isDigit then
              advance
              if significand ≠ 0 ∧ sign ≠ some '-' then failHere .numberOutOfRange
              else
                let _ ← skipDigits (← budget) 0
                floating negative 0 0
            else settle sign e
        | none => settle sign e
      else
        modify (skipOctets 1)
        failHere .invalidNumber
where
  /-- The number with the exponent that was read. -/
  settle (sign : Option Char) (e : Nat) : Reader JsonNumber :=
    floating negative significand (if sign = some '-' then exponent - e else exponent + e)

/-- The part of a number from its point on. Digits of the fraction that no longer count are
dropped. -/
def fractionPart (negative : Bool) (significand : Nat) (exponent : Int) : Reader JsonNumber := do
  advance
  let (all, count) ← digitsWithin greatestSignificand (← budget) significand 0
  let dropped ← skipDigits (← budget) 0
  match ← peek with
  | none =>
      if count + dropped = 0 then failAhead .endInValue
      else floating negative all (exponent - count)
  | some ch =>
      if count + dropped = 0 then failAhead .invalidNumber
      else if ch = 'e' ∨ ch = 'E' then exponentPart negative all (exponent - count)
      else floating negative all (exponent - count)

/-- A number after its first digits, of which `significand` is the value of those that count and
`dropped` the number of the others. -/
def numberTail (negative : Bool) (significand dropped : Nat) : Reader JsonNumber := do
  match ← peek with
  | some '.' => fractionPart negative significand dropped
  | some 'e' | some 'E' => exponentPart negative significand dropped
  | _ =>
      if dropped ≠ 0 then floating negative significand dropped
      else if negative then
        if significand = 0 ∨ 1 <<< 63 < significand then floating true significand 0
        else return .int (-(significand : Int))
      else return .int significand

/-- A number after its sign. -/
def unsignedNumber (negative : Bool) : Reader JsonNumber := do
  match ← peek with
  | none => failHere .endInValue
  | some '0' =>
      advance
      match ← peek with
      | some ch => if ch.isDigit then failAhead .invalidNumber else numberTail negative 0 0
      | none => numberTail negative 0 0
  | some ch =>
      if ch.isDigit then
        let (significand, _) ← digitsWithin greatestSignificand (← budget) 0 0
        let dropped ← skipDigits (← budget) 0
        numberTail negative significand dropped
      else
        modify (skipOctets 1)
        failHere .invalidNumber

/-- A number. -/
def number : Reader JsonNumber := do
  match ← peek with
  | some '-' =>
      advance
      unsignedNumber true
  | _ => unsignedNumber false

/-- Step over the digits of a number and what may follow them. -/
def skipNumber : Reader Unit := do
  if (← peek) = some '-' then advance
  match ← peek with
  | some '0' =>
      advance
      match ← peek with
      | some ch => if ch.isDigit then failAhead .invalidNumber else skipFraction
      | none => return
  | some ch =>
      if ch.isDigit then
        let _ ← skipDigits (← budget) 0
        skipFraction
      else
        modify (skipOctets 1)
        failHere .invalidNumber
  | none => failHere .invalidNumber
where
  /-- The fraction and the exponent. -/
  skipFraction : Reader Unit := do
    match ← peek with
    | some '.' =>
        advance
        let count ← skipDigits (← budget) 0
        if count = 0 then failAhead .invalidNumber else skipExponent
    | _ => skipExponent
  /-- The exponent. -/
  skipExponent : Reader Unit := do
    let mark ← peek
    if mark = some 'e' ∨ mark = some 'E' then
      advance
      let sign ← peek
      if sign = some '+' ∨ sign = some '-' then advance
      match ← peek with
      | some ch =>
          if ch.isDigit then
            let _ ← skipDigits (← budget) 0
            return
          else
            modify (skipOctets 1)
            failHere .invalidNumber
      | none => failHere .invalidNumber

/-- Whether another item of a list follows; `first` before the first one. -/
def moreItems (first : Bool) : Reader Bool := do
  match ← peekPart with
  | some ']' => return false
  | some ch =>
      if first then return true
      else if ch = ',' then
        advance
        match ← peekPart with
        | some ']' => failAhead .trailingComma
        | some _ => return true
        | none => failAhead .endInValue
      else failAhead .expectedListEnd
  | none => failAhead .endInList

/-- Whether another field of an object follows; `first` before the first one. -/
def moreFields (first : Bool) : Reader Bool := do
  match ← peekPart with
  | some '\x7d' => return false
  | some ch =>
      if first then
        if ch = '"' then return true else failAhead .keyNotString
      else if ch = ',' then
        advance
        match ← peekPart with
        | some '"' => return true
        | some '\x7d' => failAhead .trailingComma
        | some _ => failAhead .keyNotString
        | none => failAhead .endInValue
      else failAhead .expectedObjectEnd
  | none => failAhead .endInObject

/-- The colon after the name of a field. -/
def colon : Reader Unit := do
  match ← peekPart with
  | some ':' => advance
  | some _ => failAhead .expectedColon
  | none => failAhead .endInObject

/-- The bracket that closes a list. -/
def closeList : Reader Unit := do
  match ← peekPart with
  | some ']' => advance
  | some ',' =>
      advance
      match ← peekPart with
      | some ']' => failAhead .trailingComma
      | _ => failAhead .trailingCharacters
  | some _ => failAhead .trailingCharacters
  | none => failAhead .endInList

/-- The brace that closes an object. -/
def closeObject : Reader Unit := do
  match ← peekPart with
  | some '\x7d' => advance
  | some ',' => failAhead .trailingComma
  | some _ => failAhead .trailingCharacters
  | none => failAhead .endInObject

/-- Run a reader and then what closes its brackets, also if it fails; the first fault wins. -/
def closing (r : Reader α) (close : Reader Unit) : Reader α := do
  let closeAndFail (fault : Fault) : Reader (Option α) := do
    tryCatch close (fun _ => pure ())
    throw fault
  match ← tryCatch (some <$> r) closeAndFail with
  | some a =>
      close
      return a
  | none => failHere .expectedValue

mutual

/-- Any value, its fields in the order of the text. -/
def anyValue : Nat → Reader Json
  | 0 => failHere .endInValue
  | fuel + 1 => do
      match ← peekPart with
      | none => failAhead .endInValue
      | some 'n' =>
          advance
          identifier ['u', 'l', 'l']
          return .null
      | some 't' =>
          advance
          identifier ['r', 'u', 'e']
          return .bool true
      | some 'f' =>
          advance
          identifier ['a', 'l', 's', 'e']
          return .bool false
      | some '"' =>
          advance
          return .string (← stringTail)
      | some '[' => nested (return .array (← closing (anyItems fuel true) closeList))
      | some '\x7b' => nested (return .object (← closing (anyFields fuel true) closeObject))
      | some ch =>
          if ch = '-' ∨ ch.isDigit then return .number (← number) else failAhead .expectedValue

/-- The items of a list after its bracket. -/
def anyItems : Nat → Bool → Reader (List Json)
  | 0, _ => failHere .endInList
  | fuel + 1, first => do
      if ← moreItems first then
        let v ← anyValue fuel
        let rest ← anyItems fuel false
        return v :: rest
      else return []

/-- The fields of an object after its brace. -/
def anyFields : Nat → Bool → Reader (List (String × Json))
  | 0, _ => failHere .endInObject
  | fuel + 1, first => do
      if ← moreFields first then
        advance
        let name ← stringTail
        colon
        let v ← anyValue fuel
        let rest ← anyFields fuel false
        return (name, v) :: rest
      else return []

end

/-- Any value. -/
def value : Reader Json := do anyValue (2 * (← budget))

mutual

/-- Step over any value. -/
def skipAny : Nat → Reader Unit
  | 0 => failHere .endInValue
  | fuel + 1 => do
      match ← peekPart with
      | none => failAhead .endInValue
      | some 'n' =>
          advance
          identifier ['u', 'l', 'l']
      | some 't' =>
          advance
          identifier ['r', 'u', 'e']
      | some 'f' =>
          advance
          identifier ['a', 'l', 's', 'e']
      | some '"' =>
          advance
          skipChars (← budget)
      | some '[' =>
          advance
          skipItems fuel true
      | some '\x7b' =>
          advance
          skipFields fuel true
      | some ch => if ch = '-' ∨ ch.isDigit then skipNumber else failAhead .expectedValue

/-- Step over the items of a list up to and including its closing bracket. -/
def skipItems : Nat → Bool → Reader Unit
  | 0, _ => failHere .endInList
  | fuel + 1, first => do
      match ← peekPart with
      | none => failAhead .endInList
      | some ch =>
          if ch = ']' then advance
          else if first then
            skipAny fuel
            skipItems fuel false
          else if ch = ',' then
            advance
            skipAny fuel
            skipItems fuel false
          else failAhead .expectedListEnd

/-- Step over the fields of an object up to and including its closing brace. -/
def skipFields : Nat → Bool → Reader Unit
  | 0, _ => failHere .endInObject
  | fuel + 1, first => do
      match ← peekPart with
      | none => failAhead .endInObject
      | some ch =>
          if ch = '\x7d' then advance
          else if !first && ch ≠ ',' then failAhead .expectedObjectEnd
          else
            if !first then advance
            match ← peekPart with
            | some '"' =>
                advance
                skipChars (← budget)
                colon
                skipAny fuel
                skipFields fuel false
            | some _ => failAhead .keyNotString
            | none => failAhead .endInObject

end

/-- Step over any value. -/
def skipValue : Reader Unit := do skipAny (2 * (← budget))

/-- Nothing but spaces up to the end of the text. -/
def finish : Reader Unit := do
  match ← peekPart with
  | some _ => failAhead .trailingCharacters
  | none => return

/-- The answer of a reader on a whole text. -/
def onText (r : Reader α) (text : String) : Except Fault α :=
  (runFrom (do let a ← r; finish; return a) (Cursor.start text)).1

end Reader

/-- Read a text as a value. Fields are sorted by name, and of equal names the last one wins. -/
def parse (text : String) : Except Fault Json := sorted <$> Reader.value.onText text

end Json
end QueryBatch
