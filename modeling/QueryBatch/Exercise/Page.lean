import QueryBatch.Json.Record

/-!
# Pages of results

A page is a positive size and a positive number, both below 2 ^ 32. Its rows start at `offset`,
which is computed in 64 bits and so stays below 2 ^ 63.
-/

namespace QueryBatch

/-- One page of a result, counted from one. -/
structure Page where
  size : Nat
  number : Nat
  size_pos : 0 < size := by omega
  number_pos : 0 < number := by omega
  size_lt : size < 1 <<< 32 := by omega
  number_lt : number < 1 <<< 32 := by omega
  deriving DecidableEq

namespace Page

instance : Inhabited Page := ⟨⟨1, 1, by omega, by omega, by omega, by omega⟩⟩

/-- The page of a size and a number, if both are in range. -/
def of? (size number : Nat) : Option Page :=
  if h : 0 < size ∧ 0 < number ∧ size < 1 <<< 32 ∧ number < 1 <<< 32 then
    some ⟨size, number, h.1, h.2.1, h.2.2.1, h.2.2.2⟩
  else none

/-- The number of rows of a full page. -/
def limit (page : Page) : Nat := page.size

/-- The product of two integers, or the end of their range that it is past. -/
def saturatingMul (a b : Int64) : Int64 :=
  if Int64.maxValue.toInt < a.toInt * b.toInt then Int64.maxValue
  else if a.toInt * b.toInt < Int64.minValue.toInt then Int64.minValue
  else a * b

/-- The number of pages before the page. -/
def pagesBefore (page : Page) : Int64 := .ofNat page.number - 1

/-- The number of rows before the page. -/
def offset (page : Page) : Nat := (saturatingMul page.pagesBefore (.ofNat page.size)).toNatClampNeg

/-- The page as a record. -/
def toJson (page : Page) : Json :=
  .object [("size", .nat page.size), ("number", .nat page.number)]

/-- A page that is being read. -/
structure Draft where
  size : Option Nat := none
  number : Option Nat := none

/-- A size or number. -/
def positive : Json.Reader Nat := Json.Reader.natural "a nonzero u32" 1 (UInt32.size - 1)

/-- The fields of a page. -/
def shape : Json.Reader.Shape Draft where
  name := "Page"
  empty := {}
  fields :=
    [{ name := "size"
       present := fun d => d.size.isSome
       read := fun d => do return { d with size := some (← positive) }
       absent := fun _ => none
       omitted := fun _ => none },
     { name := "number"
       present := fun d => d.number.isSome
       read := fun d => do return { d with number := some (← positive) }
       absent := fun _ => none
       omitted := fun _ => none }]

/-- Read a page. -/
def reader : Json.Reader Page := do
  let d ← Json.Reader.record shape
  return (of? (d.size.getD 1) (d.number.getD 1)).getD default

end Page
end QueryBatch
