/-!
# Binary floating point numbers of 64 bits

`Binary64.nearestBits` rounds a quotient of natural numbers to the nearest representable number,
ties to an even significand; `Binary64.scaled` puts a significand and a power of ten together in
rounded steps; `Binary64.shortest` gives the fewest decimal digits that round back to the same
number. All are exact arithmetic on natural numbers.
-/

namespace QueryBatch

/-- A number of the 64-bit binary interchange format, by its bits. -/
structure Binary64 where
  /-- Sign, eleven exponent bits, fifty-two fraction bits. -/
  bits : UInt64
  deriving DecidableEq, Repr, Inhabited, BEq

namespace Binary64

/-- Whether the sign bit is set. -/
def isNegative (x : Binary64) : Bool := 1 <<< 63 ≤ x.bits.toNat

/-- Bits of the magnitude. -/
def magnitude (x : Binary64) : Nat := x.bits.toNat % 1 <<< 63

/-- Bits of positive infinity. -/
def infinityBits : Nat := 0x7FF <<< 52

/-- The integer nearest to `n / d`, a half going to the even neighbour. -/
def roundQuotient (n d : Nat) : Nat :=
  let q := n / d
  let r := n % d
  if 2 * r < d then q else if d < 2 * r then q + 1 else q + q % 2

/-- `n / d` in units of `2 ^ e`, as a quotient of natural numbers. -/
def inUnits (n d : Nat) (e : Int) : Nat × Nat :=
  if 0 ≤ e then (n, d <<< e.toNat) else (n <<< (-e).toNat, d)

/-- Magnitude bits of the number nearest to `n / d`, or nothing beyond the largest one. -/
def nearestBits (n d : Nat) : Option Nat :=
  if n = 0 then some 0
  else
    let guess : Int := max (-1074) ((n.log2 : Int) - (d.log2 : Int) - 53)
    let e : Int :=
      if (inUnits n d guess).1 / (inUnits n d guess).2 < 1 <<< 53 then guess else guess + 1
    let m := roundQuotient (inUnits n d e).1 (inUnits n d e).2
    let bits : Nat := if m < 1 <<< 52 then m else (e + 1074).toNat <<< 52 + m
    if bits < infinityBits then some bits else none

/-- Significand and exponent of a finite magnitude: its value is `m * 2 ^ e`. -/
def parts (magnitude : Nat) : Nat × Int :=
  let biased : Nat := magnitude >>> 52
  let fraction : Nat := magnitude % 1 <<< 52
  if biased = 0 then (fraction, -1074) else (1 <<< 52 + fraction, (biased : Int) - 1075)

/-- The value of a finite magnitude as a quotient of natural numbers. -/
def quotient (magnitude : Nat) : Nat × Nat :=
  let (m, e) := parts magnitude
  if 0 ≤ e then (m <<< e.toNat, 1) else (m, 1 <<< (-e).toNat)

/-- The greatest power of ten below infinity. -/
def greatestPower : Nat := 308

/-- Magnitude bits of the number nearest to `10 ^ k`, for `k` up to `greatestPower`. -/
def powerBits (k : Nat) : Nat := (nearestBits (Nat.pow 10 k) 1).getD 0

/-- Magnitude bits of the rounded product of two magnitudes, or nothing beyond the largest one. -/
def productBits (a b : Nat) : Option Nat :=
  nearestBits ((quotient a).1 * (quotient b).1) ((quotient a).2 * (quotient b).2)

/-- Magnitude bits of the rounded quotient of two magnitudes, the second at least one. -/
def ratioBits (a b : Nat) : Nat :=
  (nearestBits ((quotient a).1 * (quotient b).2) ((quotient a).2 * (quotient b).1)).getD 0

/-- A magnitude divided by `10 ^ k`, in steps of at most `greatestPower` places. -/
def scaleDown (magnitude k : Nat) : Nat :=
  if _h : k ≤ greatestPower then ratioBits magnitude (powerBits k)
  else if magnitude = 0 then 0
  else scaleDown (ratioBits magnitude (powerBits greatestPower)) (k - greatestPower)
termination_by k
decreasing_by simp only [greatestPower] at *; omega

/-- A magnitude times `10 ^ k`, or nothing beyond the largest one. -/
def scaleUp (magnitude k : Nat) : Option Nat :=
  if magnitude = 0 then some 0
  else if k ≤ greatestPower then productBits magnitude (powerBits k)
  else none

/-- The number `significand * 10 ^ exponent`, rounded step by step: the significand and the power
of ten are rounded first, then what becomes of both. It is the nearest number whenever the first
two roundings lose nothing. -/
def scaled (negative : Bool) (significand : Nat) (exponent : Int) : Option Binary64 :=
  let bits? : Option Nat := do
    let start ← nearestBits significand 1
    if 0 ≤ exponent then scaleUp start exponent.toNat
    else return scaleDown start (-exponent).toNat
  bits?.map fun bits => ⟨UInt64.ofNat (bits + if negative then 1 <<< 63 else 0)⟩

/-- The largest `k` with `10 ^ k ≤ n / d`. -/
def decimalExponent (n d : Nat) : Int :=
  let digits (k : Nat) : Nat := (Nat.toDigits 10 k).length
  if d ≤ n then (digits (n / d) : Int) - 1 else -(digits ((d + n - 1) / n - 1) : Int)

/-- The interval of quarters of a unit that rounds to a significand, with its ends if `closed`. -/
structure Interval where
  low : Nat
  high : Nat
  closed : Bool

/-- Whether `n / d` quarters lie in the interval. -/
def Interval.holds (i : Interval) (n d : Nat) : Bool :=
  if i.closed then i.low * d ≤ n && n ≤ i.high * d else i.low * d < n && n < i.high * d

/-- The first grid of `count` or more digits with a point that rounds back to `m * 2 ^ e`. -/
def searchDigits (m : Nat) (e top : Int) (interval : Interval) : Nat → Nat → Nat × Int
  | 0, _ => (m, e)
  | fuel + 1, count =>
      let unit : Int := top - count + 1
      -- in quarters of `2 ^ e` the value is `4 * m` and one unit of the grid is `p / q`
      let quarter := inUnits 1 1 (e - 2)
      let p := if 0 ≤ unit then quarter.1 * Nat.pow 10 unit.toNat else quarter.1
      let q := if 0 ≤ unit then quarter.2 else quarter.2 * Nat.pow 10 (-unit).toNat
      let d := 4 * m * q / p
      let below := interval.holds (d * p) q && d ≠ 0
      let above := interval.holds ((d + 1) * p) q
      let gapBelow := 4 * m * q - d * p
      let gapAbove := (d + 1) * p - 4 * m * q
      if below && above then
        if gapBelow < gapAbove || (gapBelow == gapAbove && d % 2 == 0) then (d, unit)
        else (d + 1, unit)
      else if below then (d, unit)
      else if above then (d + 1, unit)
      else searchDigits m e top interval fuel (count + 1)

/-- Remove trailing zeros of a digit sequence, raising its exponent. -/
def trimZeros : Nat → Nat → Int → Nat × Int
  | 0, n, e => (n, e)
  | fuel + 1, n, e => if n ≠ 0 ∧ n % 10 = 0 then trimZeros fuel (n / 10) (e + 1) else (n, e)

/-- The fewest decimal digits, and their exponent, that round back to a finite magnitude. -/
def shortest (magnitude : Nat) : Nat × Int :=
  let (m, e) := parts magnitude
  if m = 0 then (0, 0)
  else
    let narrow := m = 1 <<< 52 ∧ -1074 < e
    let interval : Interval :=
      ⟨if narrow then 4 * m - 1 else 4 * m - 2, 4 * m + 2, m % 2 == 0⟩
    let value := quotient magnitude
    let (d, unit) := searchDigits m e (decimalExponent value.1 value.2) interval 20 1
    trimZeros 20 d unit

/-- How a decimal is laid out: positional between the two limits on the exponent of its first
digit, scientific outside. -/
structure Layout where
  /-- Least exponent written positionally. -/
  least : Int
  /-- Greatest exponent written positionally. -/
  greatest : Int

/-- Digits and exponent in a layout, with at least one digit after the point when positional. -/
def Layout.write (layout : Layout) (digits : Nat) (exponent : Int) : String :=
  let ds := Nat.toDigits 10 digits
  let top : Int := exponent + ds.length - 1
  if digits = 0 then "0.0"
  else if layout.least ≤ top ∧ top ≤ layout.greatest then
    if 0 ≤ exponent then String.ofList (ds ++ List.replicate exponent.toNat '0' ++ ['.', '0'])
    else if 0 ≤ top then
      String.ofList (ds.take (top.toNat + 1) ++ '.' :: ds.drop (top.toNat + 1))
    else String.ofList ('0' :: '.' :: (List.replicate ((-top).toNat - 1) '0' ++ ds))
  else
    let tail := if ds.length = 1 then [] else '.' :: ds.drop 1
    String.ofList (ds.take 1 ++ tail) ++ "e" ++ toString top

/-- A number in a layout, with the words for infinity and for no number. -/
def write (layout : Layout) (x : Binary64) : String :=
  let sign := if x.isNegative then "-" else ""
  if infinityBits < x.magnitude then "NaN"
  else if x.magnitude = infinityBits then sign ++ "inf"
  else
    let (digits, exponent) := shortest x.magnitude
    sign ++ layout.write digits exponent

/-- The layout of JSON texts: positional from 1e-5 up to below 1e16. -/
def jsonLayout : Layout := ⟨-5, 15⟩

/-- The layout of values shown to a person: positional from 1e-4 up to below 1e16. -/
def shownLayout : Layout := ⟨-4, 15⟩

end Binary64
end QueryBatch
