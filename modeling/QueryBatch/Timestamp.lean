/-!
# Points in time

A `Timestamp` is a date and time of day with an offset from UTC in whole minutes. It is read and
written in the form of RFC 3339, and made from a count of microseconds since the start of the year
2000. Dates are those of the proleptic Gregorian calendar.
-/

namespace QueryBatch

/-- A date and time of day, with its offset from UTC. -/
structure Timestamp where
  year : Int
  month : Nat
  day : Nat
  hour : Nat
  minute : Nat
  second : Nat
  nanosecond : Nat
  /-- Minutes east of UTC. -/
  offset : Int
  deriving DecidableEq, Repr, Inhabited

namespace Timestamp

/-- Whether a year has 366 days. -/
def isLeap (year : Int) : Bool := year % 4 = 0 ∧ (year % 100 ≠ 0 ∨ year % 400 = 0)

/-- The number of days of a month. -/
def daysInMonth (year : Int) (month : Nat) : Nat :=
  match month with
  | 2 => if isLeap year then 29 else 28
  | 4 | 6 | 9 | 11 => 30
  | _ => 31

/-- Days from the first of March of year 0 to a date. -/
def dayNumber (year : Int) (month day : Nat) : Int :=
  let y := if month ≤ 2 then year - 1 else year
  let m : Int := if month ≤ 2 then month + 9 else (month : Int) - 3
  365 * y + y / 4 - y / 100 + y / 400 + (153 * m + 2) / 5 + (day - 1)

/-- The date of a day counted from the first of March of year 0. -/
def dateOfDay (n : Int) : Int × Nat × Nat :=
  let era := n / 146097
  let doe := n % 146097
  let yoe := (doe - doe / 1460 + doe / 36524 - doe / 146096) / 365
  let doy := doe - (365 * yoe + yoe / 4 - yoe / 100)
  let mp := (5 * doy + 2) / 153
  let day := doy - (153 * mp + 2) / 5 + 1
  let month := if mp < 10 then mp + 3 else mp - 9
  (yoe + era * 400 + (if month ≤ 2 then 1 else 0), month.toNat, day.toNat)

/-- The timestamp in UTC a number of microseconds after the start of the year 2000, if its year has
at most four digits. -/
def ofMicroseconds? (microseconds : Int) : Option Timestamp :=
  let days := microseconds / 86400000000
  let rest := (microseconds % 86400000000).toNat
  let (year, month, day) := dateOfDay (dayNumber 2000 1 1 + days)
  if -9999 ≤ year ∧ year ≤ 9999 then
    some ⟨year, month, day, rest / 3600000000, rest / 60000000 % 60, rest / 1000000 % 60,
      rest % 1000000 * 1000, 0⟩
  else none

/-- Decimal digits of a number, padded with zeros to a width. -/
def padded (width n : Nat) : List Char :=
  let ds := Nat.toDigits 10 n
  List.replicate (width - ds.length) '0' ++ ds

/-- A fraction of nine decimals without trailing zeros, or nothing. -/
def fraction (nanosecond : Nat) : List Char :=
  if nanosecond = 0 then []
  else '.' :: ((padded 9 nanosecond).reverse.dropWhile (· = '0')).reverse

/-- The offset, with a letter for none. -/
def offsetText (offset : Int) : List Char :=
  if offset = 0 then ['Z']
  else (if offset < 0 then '-' else '+') ::
    (padded 2 (offset.natAbs / 60) ++ ':' :: padded 2 (offset.natAbs % 60))

/-- The form of RFC 3339, or the name of the part that has no room in it: the year has four digits
and the offset stays below a day. -/
def text (t : Timestamp) : Except String String :=
  if t.year < 0 ∨ 9999 < t.year then .error "year"
  else if 24 ≤ t.offset.natAbs / 60 then .error "offset_hour"
  else
    .ok (String.ofList
      (padded 4 t.year.toNat ++ '-' :: padded 2 t.month ++ '-' :: padded 2 t.day ++ 'T' ::
        padded 2 t.hour ++ ':' :: padded 2 t.minute ++ ':' :: padded 2 t.second ++
        fraction t.nanosecond ++ offsetText t.offset))

/-- Why a text is not a timestamp. -/
inductive Malformed
  | part (name : String)
  | literal
  | trailing
  | range (name : String)

/-- The wording of a refusal. -/
def Malformed.message : Malformed → String
  | .part name => "the '" ++ name ++ "' component could not be parsed"
  | .literal => "a character literal was not valid"
  | .trailing => "unexpected trailing characters; the end of input was expected"
  | .range name => name ++ " was not in range"

/-- Exactly `count` decimal digits. -/
def digits : Nat → Nat → List Char → Option (Nat × List Char)
  | 0, value, cs => some (value, cs)
  | count + 1, value, c :: cs =>
      if c.isDigit then digits count (value * 10 + (c.toNat - '0'.toNat)) cs else none
  | _ + 1, _, [] => none

/-- A named part of so many digits. -/
def part (name : String) (count : Nat) (cs : List Char) : Except Malformed (Nat × List Char) :=
  match digits count 0 cs with
  | some r => .ok r
  | none => .error (.part name)

/-- A character that has to stand here. -/
def literal (wanted : Char) : List Char → Except Malformed (List Char)
  | c :: cs => if c = wanted then .ok cs else .error .literal
  | [] => .error .literal

/-- One character of any kind between the date and the time. -/
def separator : List Char → Except Malformed (List Char)
  | c :: cs => if c.utf8Size = 1 then .ok cs else .error (.part "hour")
  | [] => .error (.part "separator")

/-- The fraction of a second in nanoseconds; places after the ninth are dropped. -/
def subsecond : List Char → Except Malformed (Nat × List Char)
  | '.' :: cs =>
      let ds := cs.takeWhile Char.isDigit
      if ds.isEmpty then .error (.part "subsecond")
      else
        let nine := (ds ++ List.replicate 9 '0').take 9
        .ok (nine.foldl (fun n c => n * 10 + (c.toNat - '0'.toNat)) 0, cs.dropWhile Char.isDigit)
  | cs => .ok (0, cs)

/-- The offset in minutes: a letter for none, or a sign, hours and minutes. Two digits that are no
hour of a day are not taken for the hours, whatever follows them. -/
def zone : List Char → Except Malformed (Int × List Char)
  | [] => .error (.part "offset hour")
  | c :: cs =>
      if c = 'Z' ∨ c = 'z' then .ok (0, cs)
      else if c = '+' ∨ c = '-' then do
        let (hours, cs) ← part "offset hour" 2 cs
        if 23 < hours then throw (.part "offset hour")
        let cs ← literal ':' cs
        let (minutes, cs) ← part "offset minute" 2 cs
        if 59 < minutes then throw (.range "offset minute")
        let total : Int := hours * 60 + minutes
        return (if c = '-' then -total else total, cs)
      else .error (.part "offset hour")

/-- Whether a timestamp names the last second of a month in UTC. -/
def endsMonth (t : Timestamp) : Bool :=
  let minutes : Int := t.hour * 60 + t.minute - t.offset
  let (year, month, day) := dateOfDay (dayNumber t.year t.month t.day + minutes / 1440)
  minutes % 1440 = 1439 ∧ t.second = 59 ∧ day = daysInMonth year month

/-- The date and time of day, if every part is in its range. -/
def check (t : Timestamp) : Except Malformed Timestamp := do
  if t.month < 1 ∨ 12 < t.month then throw (.range "month")
  if t.day < 1 ∨ daysInMonth t.year t.month < t.day then throw (.range "day")
  if 23 < t.hour then throw (.range "hour")
  if 59 < t.minute then throw (.range "minute")
  if 59 < t.second then throw (.range "second")
  return t

/-- Read the form of RFC 3339. A sixtieth second is accepted at the end of a month in UTC and
taken as the last nanosecond before it. -/
def parse (s : String) : Except Malformed Timestamp := do
  let (year, cs) ← part "year" 4 s.toList
  let cs ← literal '-' cs
  let (month, cs) ← part "month" 2 cs
  if month = 0 then throw (.part "month")
  let cs ← literal '-' cs
  let (day, cs) ← part "day" 2 cs
  let cs ← separator cs
  let (hour, cs) ← part "hour" 2 cs
  let cs ← literal ':' cs
  let (minute, cs) ← part "minute" 2 cs
  let cs ← literal ':' cs
  let (second, cs) ← part "second" 2 cs
  let (nanosecond, cs) ← subsecond cs
  let (offset, cs) ← zone cs
  if !cs.isEmpty then throw .trailing
  let t : Timestamp := ⟨year, month, day, hour, minute, second, nanosecond, offset⟩
  if second = 60 then
    let t ← check { t with second := 59, nanosecond := 999999999 }
    if t.endsMonth then return t else throw (.range "second")
  else check t

end Timestamp
end QueryBatch
