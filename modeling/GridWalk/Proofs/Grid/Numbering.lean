import GridWalk.Proofs.Grid.RowMajor
import Mathlib.Data.Set.Function
import Mathlib.Order.Interval.Set.Defs

/-!
# The numbers of the cells

The number of a cell is computed in words, by a product and a sum that might not fit. They always
do: coordinates have 32 bits and words have 64. So the cells of a grid of any size have the numbers
below the number of cells, each one of them, in row-major order; a dense map that is read and
written by these numbers has an entry for every cell and never takes one for another.
-/

namespace GridWalk

universe u

namespace GridSize

variable {size : GridSize} {cell later : Cell}

/-- Of two cells of a grid the one that comes first has the smaller number. -/
theorem number_lt_of_rowMajor (inside : size.contains cell = true)
    (before : Cell.rowMajor cell later = .lt) :
    cell.row.toNat * size.columns.toNat + cell.column.toNat <
      later.row.toNat * size.columns.toNat + later.column.toNat := by
  obtain ⟨column_lt, -⟩ := contains_iff.mp inside
  rw [Cell.rowMajor_eq_lt_iff, UInt32.lt_iff_toNat_lt, UInt32.lt_iff_toNat_lt] at before
  rcases before with row_lt | ⟨row_eq, column_before⟩
  · calc cell.row.toNat * size.columns.toNat + cell.column.toNat
        < (cell.row.toNat + 1) * size.columns.toNat := by
          rw [Nat.add_one_mul]
          omega
      _ ≤ later.row.toNat * size.columns.toNat := Nat.mul_le_mul_right _ row_lt
      _ ≤ later.row.toNat * size.columns.toNat + later.column.toNat := Nat.le_add_right _ _
  · rw [row_eq]
    omega

/-- The numbers of the cells are those below the number of cells. -/
theorem bijOn_index? (size : GridSize) :
    Set.BijOn size.index? {cell | size.contains cell = true} (some '' Set.Iio size.cellCount) := by
  refine ⟨?_, ?_, ?_⟩
  · intro cell inside
    have numbered := index?_of_contains inside
    exact ⟨_, index?_lt_cellCount numbered, numbered.symm⟩
  · intro cell inside other _ same
    have numbered := index?_of_contains inside
    exact index?_injective numbered (same.symm.trans numbered)
  · rintro _ ⟨number, number_lt, rfl⟩
    obtain ⟨cell, numbered⟩ := exists_index?_eq_some number_lt
    exact ⟨cell, (index?_eq_some_iff.mp numbered).1, numbered⟩

/-- The cells of a grid are numbered row by row and without gaps, and words hold all that is
computed on the way. -/
structure NumbersRowByRow (size : GridSize) : Prop where
  cellCount_eq : size.cellCount = size.columns.toNat * size.rows.toNat
  cellCount_lt : size.columns.toNat * size.rows.toNat < Word.size
  /-- Neither the product nor the sum overflows. -/
  inside : ∀ cell, size.contains cell = true →
    cell.row.toNat * size.columns.toNat < Word.size ∧
    cell.row.toNat * size.columns.toNat + cell.column.toNat < Word.size ∧
    size.index? cell = some (cell.row.toNat * size.columns.toNat + cell.column.toNat)
  outside : ∀ cell, size.contains cell = false → size.index? cell = none
  bijOn : Set.BijOn size.index? {cell | size.contains cell = true}
    (some '' Set.Iio size.cellCount)
  increasing : ∀ cell later number laterNumber, size.index? cell = some number →
    size.index? later = some laterNumber →
    (Cell.rowMajor cell later = .lt ↔ number < laterNumber)

/-- Whatever its size, a grid numbers its cells row by row, and in a dense map over the grid every
cell has an entry of its own, which no other cell reads or writes. -/
theorem numbers_row_by_row (size : GridSize) :
    size.NumbersRowByRow ∧
    ∀ {α : Type u} (map : CellMap size α) (cell : Cell), size.contains cell = true →
      (∃ entry, map.get? cell = some entry) ∧
      ∀ entry, (map.set cell entry).get? cell = some entry ∧
        ∀ other, other ≠ cell → (map.set cell entry).get? other = map.get? other := by
  refine ⟨⟨size.cellCount_eq, size.area_lt, ?_, ?_, size.bijOn_index?, ?_⟩, ?_⟩
  · intro cell inside
    have number_lt := row_mul_add_column_lt inside
    have area_lt := size.area_lt
    exact ⟨by omega, by omega, index?_of_contains inside⟩
  · intro cell outside
    exact index?_eq_none_iff.mpr outside
  · intro cell later number laterNumber numbered laterNumbered
    obtain ⟨inside, rfl⟩ := index?_eq_some_iff.mp numbered
    obtain ⟨later_inside, rfl⟩ := index?_eq_some_iff.mp laterNumbered
    exact ⟨number_lt_of_rowMajor inside, rowMajor_of_number_lt inside later_inside⟩
  · intro α map cell inside
    refine ⟨?_, fun entry => ⟨?_, ?_⟩⟩
    · rw [← Option.ne_none_iff_exists', Ne, CellMap.get?_eq_none_iff, inside]
      exact Bool.noConfusion
    · rw [CellMap.get?_set, if_pos ⟨rfl, inside⟩]
    · intro other differs
      rw [CellMap.get?_set, if_neg fun same => differs same.1.symm]

/-- On the largest grid the numbers run up to the last cell. -/
theorem numbers_row_by_row_largest :
    let size : GridSize := ⟨4294967295, 4294967295⟩
    size.cellCount = 18446744065119617025 ∧
      size.index? ⟨4294967294, 4294967294⟩ = some 18446744065119617024 ∧
      size.index? ⟨4294967294, 0⟩ = some 4294967294 ∧ size.index? ⟨0, 1⟩ = some 4294967295 ∧
      size.index? ⟨4294967295, 0⟩ = none := by
  intro size
  obtain ⟨numbers, -⟩ := numbers_row_by_row.{0} size
  have last := (numbers.inside ⟨4294967294, 4294967294⟩ (by decide)).2.2
  have right := (numbers.inside ⟨4294967294, 0⟩ (by decide)).2.2
  have below := (numbers.inside ⟨0, 1⟩ (by decide)).2.2
  refine ⟨numbers.cellCount_eq.trans ?_, last.trans ?_, right.trans ?_, below.trans ?_,
    numbers.outside _ (by decide)⟩ <;> decide +kernel

end GridSize
end GridWalk
