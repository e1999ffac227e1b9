import GridWalk.Grid.Cell
import GridWalk.Number.Word

/-!
# Grid sizes

A grid has a number of columns and a number of rows, and holds the cells below both. Its cells are
numbered row by row. The numbers are computed in words; the main statements, `cellCount_eq` and
`index?_eq_some_iff`, say that no word ever overflows.
-/

namespace GridWalk

/-- The dimensions of a grid in whole cells. -/
structure GridSize where
  /-- Number of columns. -/
  columns : UInt32
  /-- Number of rows. -/
  rows : UInt32
  deriving DecidableEq, Repr

namespace GridSize

/-- The size of a grid that nobody has configured. -/
def standard : GridSize := ⟨60, 60⟩

/-- Whether the cell lies within the grid. -/
def contains (size : GridSize) (cell : Cell) : Bool :=
  cell.column < size.columns && cell.row < size.rows

/-- Whether the grid has no cell. -/
def isEmpty (size : GridSize) : Bool :=
  size.columns == 0 || size.rows == 0

/-- The number of cells, zero if a word could not hold it. -/
def cellCount (size : GridSize) : Nat :=
  (Word.mul? size.columns.toNat size.rows.toNat).getD 0

/-- The number of the cell in row-major order, absent outside the grid. -/
def index? (size : GridSize) (cell : Cell) : Option Nat :=
  if size.contains cell then
    (Word.mul? cell.row.toNat size.columns.toNat).bind (Word.add? · cell.column.toNat)
  else
    none

/-- The cell of the grid nearest to the given one, absent for an empty grid. -/
def clamp (size : GridSize) (cell : Cell) : Option Cell :=
  if size.isEmpty then
    none
  else
    some ⟨min cell.column (size.columns - 1), min cell.row (size.rows - 1)⟩

/-- All cells of the grid in row-major order. -/
def cells (size : GridSize) : List Cell :=
  (List.range size.rows.toNat).flatMap fun row =>
    (List.range size.columns.toNat).map fun column => ⟨UInt32.ofNat column, UInt32.ofNat row⟩

/-! ## Containment -/

theorem contains_iff {size : GridSize} {cell : Cell} :
    size.contains cell = true ↔
      cell.column.toNat < size.columns.toNat ∧ cell.row.toNat < size.rows.toNat := by
  simp [contains, UInt32.lt_iff_toNat_lt]

@[simp]
theorem mem_cells {size : GridSize} {cell : Cell} :
    cell ∈ size.cells ↔ size.contains cell = true := by
  simp only [cells, List.mem_flatMap, List.mem_map, List.mem_range, contains_iff]
  constructor
  · rintro ⟨row, row_lt, column, column_lt, rfl⟩
    rw [UInt32.toNat_ofNat_of_lt' (Nat.lt_trans column_lt size.columns.toNat_lt),
      UInt32.toNat_ofNat_of_lt' (Nat.lt_trans row_lt size.rows.toNat_lt)]
    exact ⟨column_lt, row_lt⟩
  · rintro ⟨column_lt, row_lt⟩
    refine ⟨cell.row.toNat, row_lt, cell.column.toNat, column_lt, ?_⟩
    rw [UInt32.ofNat_toNat, UInt32.ofNat_toNat]

/-! ## The nearest cell -/

theorem clamp_eq_none_iff {size : GridSize} {cell : Cell} :
    size.clamp cell = none ↔ size.isEmpty = true := by
  rw [clamp]
  split <;> simp_all

theorem isEmpty_eq_false_of_clamp {size : GridSize} {cell nearest : Cell}
    (clamped : size.clamp cell = some nearest) : size.isEmpty = false := by
  rw [Bool.eq_false_iff]
  intro empty
  rw [clamp_eq_none_iff.mpr empty] at clamped
  cases clamped

private theorem min_sub_one_lt {word bound : UInt32} (some_word : bound ≠ 0) :
    min word (bound - 1) < bound := by
  have last_lt : bound - 1 < bound := by grind
  change (if word ≤ bound - 1 then word else bound - 1) < bound
  split
  · rename_i within
    exact UInt32.lt_of_le_of_lt within last_lt
  · exact last_lt

/-- The cell of a grid nearest to a given one lies in the grid. -/
theorem contains_of_clamp {size : GridSize} {cell nearest : Cell}
    (clamped : size.clamp cell = some nearest) : size.contains nearest = true := by
  have some_cell := isEmpty_eq_false_of_clamp clamped
  rw [clamp, some_cell, if_neg Bool.false_ne_true] at clamped
  obtain rfl := Option.some.inj clamped
  obtain ⟨some_column, some_row⟩ : size.columns ≠ 0 ∧ size.rows ≠ 0 := by
    simpa [isEmpty] using some_cell
  simp [contains, min_sub_one_lt some_column, min_sub_one_lt some_row]

/-! ## Numbering -/

/-- A word holds the product of two numbers of 32 bits. -/
theorem area_lt (size : GridSize) :
    size.columns.toNat * size.rows.toNat < Word.size := by
  have columns_lt := size.columns.toNat_lt
  have rows_lt := size.rows.toNat_lt
  calc size.columns.toNat * size.rows.toNat
      ≤ size.columns.toNat * 2 ^ 32 := Nat.mul_le_mul_left _ (by omega)
    _ < 2 ^ 32 * 2 ^ 32 := Nat.mul_lt_mul_of_pos_right columns_lt (by decide)
    _ = Word.size := by decide

theorem cellCount_eq (size : GridSize) :
    size.cellCount = size.columns.toNat * size.rows.toNat := by
  simp [cellCount, Word.mul?_of_lt size.area_lt]

/-- A cell's number stays below the number of cells, and so do the steps of its computation. -/
theorem row_mul_add_column_lt {size : GridSize} {cell : Cell} (inside : size.contains cell = true) :
    cell.row.toNat * size.columns.toNat + cell.column.toNat <
      size.columns.toNat * size.rows.toNat := by
  obtain ⟨column_lt, row_lt⟩ := contains_iff.mp inside
  calc cell.row.toNat * size.columns.toNat + cell.column.toNat
      < cell.row.toNat * size.columns.toNat + size.columns.toNat := by omega
    _ = size.columns.toNat * (cell.row.toNat + 1) := by
        rw [Nat.mul_comm, Nat.mul_add, Nat.mul_one]
    _ ≤ size.columns.toNat * size.rows.toNat := Nat.mul_le_mul_left _ row_lt

theorem index?_of_contains {size : GridSize} {cell : Cell} (inside : size.contains cell = true) :
    size.index? cell = some (cell.row.toNat * size.columns.toNat + cell.column.toNat) := by
  have total_lt := Nat.lt_trans (row_mul_add_column_lt inside) size.area_lt
  have product_lt : cell.row.toNat * size.columns.toNat < Word.size := by omega
  simp [index?, inside, Word.mul?_of_lt product_lt, Word.add?_of_lt total_lt]

theorem index?_eq_some_iff {size : GridSize} {cell : Cell} {index : Nat} :
    size.index? cell = some index ↔
      size.contains cell = true ∧
        index = cell.row.toNat * size.columns.toNat + cell.column.toNat := by
  by_cases inside : size.contains cell = true
  · simp [index?_of_contains inside, inside, eq_comm]
  · simp [index?, inside]

theorem index?_eq_none_iff {size : GridSize} {cell : Cell} :
    size.index? cell = none ↔ size.contains cell = false := by
  by_cases inside : size.contains cell = true
  · simp [index?_of_contains inside, inside]
  · simp [index?, inside]

theorem index?_lt_cellCount {size : GridSize} {cell : Cell} {index : Nat}
    (numbered : size.index? cell = some index) : index < size.cellCount := by
  obtain ⟨inside, rfl⟩ := index?_eq_some_iff.mp numbered
  rw [cellCount_eq]
  exact row_mul_add_column_lt inside

/-- Two cells never share a number. -/
theorem index?_injective {size : GridSize} {cell other : Cell} {index : Nat}
    (cell_index : size.index? cell = some index) (other_index : size.index? other = some index) :
    cell = other := by
  obtain ⟨cell_inside, rfl⟩ := index?_eq_some_iff.mp cell_index
  obtain ⟨other_inside, same⟩ := index?_eq_some_iff.mp other_index
  obtain ⟨cell_column_lt, _⟩ := contains_iff.mp cell_inside
  obtain ⟨other_column_lt, _⟩ := contains_iff.mp other_inside
  have columns_pos : 0 < size.columns.toNat := by omega
  have column_eq : cell.column.toNat = other.column.toNat := by
    have := congrArg (· % size.columns.toNat) same
    simpa [Nat.mul_comm, Nat.mod_eq_of_lt cell_column_lt, Nat.mod_eq_of_lt other_column_lt]
      using this
  have row_eq : cell.row.toNat = other.row.toNat := by
    rw [column_eq] at same
    exact Nat.eq_of_mul_eq_mul_right columns_pos (Nat.add_right_cancel same)
  cases cell
  cases other
  simp only [Cell.mk.injEq]
  exact ⟨UInt32.toNat_inj.mp column_eq, UInt32.toNat_inj.mp row_eq⟩

/-- Every number below the number of cells is that of a cell. -/
theorem exists_index?_eq_some {size : GridSize} {index : Nat} (index_lt : index < size.cellCount) :
    ∃ cell, size.index? cell = some index := by
  rw [cellCount_eq] at index_lt
  have columns_pos : 0 < size.columns.toNat := Nat.pos_of_lt_mul_right index_lt
  have column_lt := Nat.mod_lt index columns_pos
  have row_lt : index / size.columns.toNat < size.rows.toNat := Nat.div_lt_of_lt_mul index_lt
  have column_eq := UInt32.toNat_ofNat_of_lt' (Nat.lt_trans column_lt size.columns.toNat_lt)
  have row_eq := UInt32.toNat_ofNat_of_lt' (Nat.lt_trans row_lt size.rows.toNat_lt)
  refine ⟨⟨UInt32.ofNat (index % size.columns.toNat), UInt32.ofNat (index / size.columns.toNat)⟩,
    index?_eq_some_iff.mpr ⟨contains_iff.mpr ?_, ?_⟩⟩
  · rw [column_eq, row_eq]
    exact ⟨column_lt, row_lt⟩
  · rw [column_eq, row_eq, Nat.mul_comm, Nat.div_add_mod]

end GridSize

end GridWalk
