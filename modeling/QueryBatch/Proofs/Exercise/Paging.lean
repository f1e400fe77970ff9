import Mathlib
import QueryBatch.Proofs.Exercise.Search

/-!
# Pages tile the rows of a search

The offset of a page is computed in 64 bits. Neither the number of pages before it nor its size is
changed by going over to them, and the product of the two stops at the greatest integer there is
(`saturatingMul_toInt`). So the offset is the number of rows of all pages before, as long as that
can be said in 64 bits (`offset_eq_min`), and pages past that start behind every row that can.

A row lies on the page whose number is one more than the number of full pages before the row. No
other page of the same size holds it: a page that starts where it should starts too early or too
late for the row, and one whose offset was cut off starts behind all rows.
-/

namespace QueryBatch
namespace Page

section Words

/-- The product within the range of 64 bits. -/
theorem saturatingMul_toInt
    (a b : Int64) :
    (saturatingMul a b).toInt = max (-2 ^ 63) (min (a.toInt * b.toInt) (2 ^ 63 - 1)) := by
  unfold saturatingMul
  rw [Int64.toInt_maxValue, Int64.toInt_minValue]
  split
  · rw [Int64.toInt_maxValue]
    omega
  · split
    · rw [Int64.toInt_minValue]
      omega
    · have hexact : (a * b).toInt = a.toInt * b.toInt := by
        rw [Int64.toInt_mul]
        exact Int.bmod_eq_of_le (by omega) (by omega)
      omega

variable (page : Page)

theorem toInt_ofNat_size :
    (Int64.ofNat page.size).toInt = page.size := by
  have hsize := page.size_lt
  exact Int64.toInt_ofNat_of_lt (by omega)

/-- Taking one from the number of a page stays within 64 bits. -/
theorem toInt_pagesBefore :
    page.pagesBefore.toInt = (page.number - 1 : Nat) := by
  have hpos := page.number_pos
  have hnumber := page.number_lt
  have hword : (Int64.ofNat page.number).toInt = page.number :=
    Int64.toInt_ofNat_of_lt (by omega)
  unfold pagesBefore
  rw [Int64.toInt_sub, hword, Int64.toInt_one, Int.bmod_eq_of_le (by omega) (by omega)]
  omega

/-- The offset is the number of rows of the pages before, or the greatest integer of 64 bits. -/
theorem offset_eq_min :
    page.offset = min ((page.number - 1) * page.size) (2 ^ 63 - 1) := by
  have hproduct := saturatingMul_toInt page.pagesBefore (.ofNat page.size)
  rw [toInt_pagesBefore, toInt_ofNat_size, ← Int.natCast_mul] at hproduct
  rw [offset, ← Int64.toNat_toInt]
  omega

end Words

/-- Whether a row, counted from zero, lies on a page. -/
def Holds (page : Page) (row : Nat) : Prop :=
  page.offset ≤ row ∧ row < page.offset + page.limit

section Rows

variable {row : Nat}

/-- A page that holds a row among the first 2 ^ 63 - 1 starts where the pages before it end. -/
theorem Holds.offset_eq
    {page : Page}
    (hholds : page.Holds row)
    (hrow : row < 2 ^ 63 - 1) :
    page.offset = (page.number - 1) * page.size := by
  have hoffset := page.offset_eq_min
  have hstart : page.offset ≤ row := hholds.1
  omega

/-- The page of a row is told by the number of full pages before the row. -/
theorem Holds.number_eq
    {page : Page}
    (hholds : page.Holds row)
    (hrow : row < 2 ^ 63 - 1) :
    page.number = row / page.size + 1 := by
  have hoffset := hholds.offset_eq hrow
  obtain ⟨hstart, hend⟩ := hholds
  have hpages : row / page.size = page.number - 1 := by
    refine Nat.div_eq_of_lt_le (hoffset ▸ hstart) ?_
    rwa [hoffset, limit, ← Nat.succ_mul] at hend
  have hpos := page.number_pos
  omega

/-- Every row is on a page, as long as the numbers of pages reach it. -/
theorem exists_holds
    {size : Nat}
    (hpos : 0 < size)
    (hsize : size < 2 ^ 32)
    (hreached : row < size * (2 ^ 32 - 1))
    (hrow : row < 2 ^ 63 - 1) :
    ∃ page : Page, page.size = size ∧ page.Holds row := by
  obtain ⟨before, hbefore⟩ : ∃ before, before = row / size := ⟨_, rfl⟩
  have hnumber : before < 2 ^ 32 - 1 := hbefore ▸ Nat.div_lt_of_lt_mul hreached
  have hstart : before * size ≤ row := hbefore ▸ Nat.div_mul_le_self row size
  have hend : row < before * size + size := hbefore ▸ Nat.lt_div_mul_add hpos
  let page : Page := ⟨size, before + 1, hpos, by omega, by omega, by omega⟩
  have hoffset : page.offset = min (before * size) (2 ^ 63 - 1) := page.offset_eq_min
  have hlimit : page.limit = size := rfl
  refine ⟨page, rfl, ?_, ?_⟩
  · omega
  · omega

/-- Pages of one size and one number are the same. -/
theorem eq_of_size_of_number
    {first second : Page}
    (hsize : first.size = second.size)
    (hnumber : first.number = second.number) :
    first = second := by
  cases first
  cases second
  cases hsize
  cases hnumber
  rfl

end Rows

end Page

namespace Exercise
namespace Query

open Sql

/-- A search up to its limit. -/
def unpaged (marker : Nat → String → String) (fields : List Field) : String :=
  "SELECT *, COUNT(*) OVER() AS total_count FROM (" ++ exerciseData ++ "\n) AS exercise_data"
    ++ conditions marker fields ++ orderBy

theorem layout_atNumber
    (fields : List Field) :
    layout atNumber fields
      = unpaged atNumber fields ++ "\nLIMIT $" ++ toString (fields.length + 1) ++ " OFFSET $"
          ++ toString (fields.length + 2) := by
  have hlimit : "\nLIMIT " ++ "$" = "\nLIMIT $" := rfl
  have hoffset : " OFFSET " ++ "$" = " OFFSET $" := rfl
  unfold layout unpaged
  generalize "SELECT *, COUNT(*) OVER() AS total_count FROM (" ++ exerciseData
    ++ "\n) AS exercise_data" ++ conditions atNumber fields ++ orderBy = start
  simp only [atNumber, String.append_assoc, ← hlimit, ← hoffset]

/-- The bound text of a search ends in the limit and the offset of its page, whose values stand last
among the values. -/
theorem bind_search_paging
    (filter : Filter)
    (page : Page) :
    ∃ (text : String) (values : List Param),
      (Arguments.named (search filter page).args).bind (search filter page).text
        = .ok ⟨text ++ "\nLIMIT $" ++ toString (values.length + 1) ++ " OFFSET $"
              ++ toString (values.length + 2),
            values ++ [Param.int page.limit, Param.int page.offset], values.length + 2⟩ := by
  refine ⟨unpaged atNumber (present filter), Field.all.filterMap (Field.value? filter), ?_⟩
  rw [(binds_search filter page).bind, layout_atNumber, List.length_append, length_values]
  rfl

/-- Pages of one size tile the rows of a search.

A page starts behind the rows of the pages before it, or at the greatest integer of 64 bits where
that is less, and no step of the computation leaves 64 bits. So of the rows that the pages of a size
reach and that have an index below the greatest integer, each lies on exactly one page of that size.
A search is bound to these limits and offsets. -/
theorem pages_tile_rows :
    (∀ page : Page,
      (Int64.ofNat page.size).toInt = page.size ∧
      page.pagesBefore.toInt = (page.number - 1 : Nat) ∧
      page.limit = page.size ∧
      page.offset = min ((page.number - 1) * page.size) (2 ^ 63 - 1)) ∧
    (∀ size row : Nat, 0 < size → size < 2 ^ 32 → row < min (size * (2 ^ 32 - 1)) (2 ^ 63 - 1) →
      ∃! page : Page, page.size = size ∧ page.Holds row) ∧
    ∀ (filter : Filter) (page : Page), ∃ (text : String) (values : List Param),
      (Arguments.named (search filter page).args).bind (search filter page).text
        = .ok ⟨text ++ "\nLIMIT $" ++ toString (values.length + 1) ++ " OFFSET $"
              ++ toString (values.length + 2),
            values ++ [Param.int page.limit, Param.int page.offset], values.length + 2⟩ := by
  refine ⟨fun page => ⟨page.toInt_ofNat_size, page.toInt_pagesBefore, rfl, page.offset_eq_min⟩,
    fun size row hpos hsize hmin => ?_, bind_search_paging⟩
  obtain ⟨hreached, hrow⟩ := lt_min_iff.1 hmin
  obtain ⟨page, rfl, hholds⟩ := Page.exists_holds hpos hsize hreached hrow
  refine ⟨page, ⟨rfl, hholds⟩, ?_⟩
  rintro other ⟨hsame, hother⟩
  refine Page.eq_of_size_of_number hsame ?_
  rw [hother.number_eq hrow, hholds.number_eq hrow, hsame]

/-- The greatest pages reach the last row there is; it is on the page before the first one whose
offset is cut off. -/
theorem pages_tile_rows_to_the_end :
    ∃! page : Page, page.size = 2 ^ 32 - 1 ∧ page.Holds (2 ^ 63 - 2) :=
  pages_tile_rows.2.1 (2 ^ 32 - 1) (2 ^ 63 - 2) (by decide) (by decide) (by decide)

end Query
end Exercise
end QueryBatch
