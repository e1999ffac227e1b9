import GridWalk.Grid.CellMap
import GridWalk.Grid.CellSet
import Mathlib.Data.List.Nodup

/-!
# Row-major order

A grid lists its cells row by row, and so the cell at a place of the list is the one of that number.
What a dense map counts is therefore counted cell by cell. The order in which sparse sets list their
members is the same, and two lists in this order that have the same members are one list.
-/

namespace GridWalk

namespace Cell

variable {cell later : Cell} {cells others : List Cell}

theorem rowMajor_eq_lt_iff :
    rowMajor cell later = .lt ↔
      cell.row < later.row ∨ cell.row = later.row ∧ cell.column < later.column := by
  rw [rowMajor, compareLex, Ordering.then_eq_lt, compareOn, compareOn, Std.compare_eq_lt,
    Std.compare_eq_iff_eq, Std.compare_eq_lt]

theorem nodup_of_rowMajor (ascending : cells.Pairwise fun cell later => rowMajor cell later = .lt) :
    cells.Nodup := by
  refine ascending.imp fun {cell later} before same => ?_
  have equal : rowMajor later later = .eq := Std.ReflCmp.compare_self
  rw [same, equal] at before
  cases before

/-- The row-major order leaves one way to list a set of cells. -/
theorem eq_of_rowMajor (ascending : cells.Pairwise fun cell later => rowMajor cell later = .lt)
    (others_ascending : others.Pairwise fun cell later => rowMajor cell later = .lt)
    (mem_iff : ∀ cell, cell ∈ cells ↔ cell ∈ others) : cells = others := by
  have same_members : cells.Perm others :=
    (List.perm_ext_iff_of_nodup (nodup_of_rowMajor ascending)
      (nodup_of_rowMajor others_ascending)).mpr mem_iff
  refine same_members.eq_of_pairwise (fun cell later _ _ before after => ?_) ascending
    others_ascending
  have swapped : rowMajor cell later = (rowMajor later cell).swap := Std.OrientedCmp.eq_swap
  rw [swapped, after] at before
  cases before

end Cell

namespace GridSize

theorem flatMap_range_mul (rows columns : Nat) :
    ((List.range rows).flatMap fun row => (List.range columns).map (row * columns + ·)) =
      List.range (rows * columns) := by
  induction rows with
  | zero => rw [Nat.zero_mul, List.range_zero, List.flatMap_nil]
  | succ rows induction =>
      rw [List.range_succ, List.flatMap_append, induction, List.flatMap_singleton, Nat.add_one_mul,
        List.range_add]

/-- The cells come in the order of their numbers, and no number is left out. -/
theorem map_index?_cells (size : GridSize) :
    size.cells.map size.index? = (List.range size.cellCount).map some := by
  have row_eq (row : Nat) (row_mem : row ∈ List.range size.rows.toNat) :
      ((List.range size.columns.toNat).map fun column =>
        (⟨UInt32.ofNat column, UInt32.ofNat row⟩ : Cell)).map size.index? =
        ((List.range size.columns.toNat).map (row * size.columns.toNat + ·)).map some := by
    rw [List.map_map, List.map_map, List.map_inj_left]
    intro column column_mem
    have row_lt := List.mem_range.mp row_mem
    have column_lt := List.mem_range.mp column_mem
    have row_eq := UInt32.toNat_ofNat_of_lt' (Nat.lt_trans row_lt size.rows.toNat_lt)
    have column_eq := UInt32.toNat_ofNat_of_lt' (Nat.lt_trans column_lt size.columns.toNat_lt)
    refine index?_eq_some_iff.mpr ⟨contains_iff.mpr ?_, ?_⟩
    · rw [row_eq, column_eq]
      exact ⟨column_lt, row_lt⟩
    · rw [row_eq, column_eq]
  rw [cells, List.map_flatMap, List.flatMap_congr row_eq, ← List.map_flatMap, flatMap_range_mul,
    cellCount_eq, Nat.mul_comm]

/-- The cell at a place of the list is the one of that number. -/
theorem getElem?_cells_of_index? {size : GridSize} {cell : Cell} {index : Nat}
    (numbered : size.index? cell = some index) : size.cells[index]? = some cell := by
  have index_lt := index?_lt_cellCount numbered
  have listed : (size.cells.map size.index?)[index]? = some (some index) := by
    rw [map_index?_cells, List.getElem?_map, List.getElem?_range index_lt, Option.map_some]
  rw [List.getElem?_map, Option.map_eq_some_iff] at listed
  obtain ⟨other, other_eq, other_numbered⟩ := listed
  rw [other_eq, index?_injective other_numbered numbered]

theorem nodup_cells (size : GridSize) : size.cells.Nodup := by
  refine List.Nodup.of_map size.index? ?_
  rw [map_index?_cells]
  exact List.nodup_range.map fun _ _ => Option.some.inj

/-- Of two cells of a grid the one with the smaller number comes first. -/
theorem rowMajor_of_number_lt {size : GridSize} {cell later : Cell}
    (inside : size.contains cell = true) (later_inside : size.contains later = true)
    (number_lt : cell.row.toNat * size.columns.toNat + cell.column.toNat <
      later.row.toNat * size.columns.toNat + later.column.toNat) :
    Cell.rowMajor cell later = .lt := by
  obtain ⟨column_lt, -⟩ := contains_iff.mp inside
  obtain ⟨later_column_lt, -⟩ := contains_iff.mp later_inside
  rw [Cell.rowMajor_eq_lt_iff, UInt32.lt_iff_toNat_lt, UInt32.lt_iff_toNat_lt, ← UInt32.toNat_inj]
  rcases Nat.lt_trichotomy cell.row.toNat later.row.toNat with row_lt | row_eq | row_gt
  · exact .inl row_lt
  · rw [row_eq] at number_lt
    exact .inr ⟨row_eq, Nat.lt_of_add_lt_add_left number_lt⟩
  · -- a row further down starts behind every number of the row above
    have := Nat.mul_le_mul_right size.columns.toNat (Nat.succ_le_of_lt row_gt)
    rw [Nat.succ_mul] at this
    omega

/-- The listing of a grid follows the row-major order strictly. -/
theorem pairwise_cells (size : GridSize) :
    size.cells.Pairwise fun cell later => Cell.rowMajor cell later = .lt := by
  have numbers_ascend : (size.cells.map size.index?).Pairwise fun number later =>
      ∀ first ∈ number, ∀ second ∈ later, first < second := by
    rw [map_index?_cells, List.pairwise_map]
    refine List.pairwise_lt_range.imp ?_
    rintro first second first_lt _ ⟨rfl⟩ _ ⟨rfl⟩
    exact first_lt
  refine (List.pairwise_map.mp numbers_ascend).imp_of_mem ?_
  intro cell later mem later_mem ascends
  have inside := mem_cells.mp mem
  have later_inside := mem_cells.mp later_mem
  exact rowMajor_of_number_lt inside later_inside
    (ascends _ (index?_of_contains inside) _ (index?_of_contains later_inside))

end GridSize

namespace CellMap

universe u

variable {size : GridSize} {α : Type u}

theorem map_getElem?_range (entries : Vector α size.cellCount) :
    (List.range size.cellCount).map (entries[·]?) = entries.toList.map some := by
  refine List.ext_getElem (by simp) fun index index_lt _ => ?_
  rw [List.length_map, List.length_range] at index_lt
  simp [index_lt]

/-- The entries come in the order of the cells. -/
theorem map_get?_cells (map : CellMap size α) :
    size.cells.map map.get? = map.entries.toList.map some := by
  have get?_eq : map.get? = (Option.bind · (map.entries[·]?)) ∘ size.index? := rfl
  rw [get?_eq, ← List.map_map, GridSize.map_index?_cells, List.map_map]
  exact map_getElem?_range map.entries

/-- The entries with their places are the cells with their numbers. -/
theorem zipIdx_entries (map : CellMap size α) (entry : α) :
    map.entries.toList.zipIdx =
      size.cells.map fun cell => ((map.get? cell).getD entry, (size.index? cell).getD 0) := by
  have entries_eq : map.entries.toList = size.cells.map fun cell => (map.get? cell).getD entry := by
    have := congrArg (List.map (·.getD entry)) map.map_get?_cells
    simpa [Function.comp_def] using this.symm
  have numbers_eq : List.range size.cellCount =
      size.cells.map fun cell => (size.index? cell).getD 0 := by
    have := congrArg (List.map (·.getD 0)) size.map_index?_cells
    simpa [Function.comp_def] using this.symm
  rw [List.zipIdx_eq_zip_range', Vector.length_toList, ← List.range_eq_range', entries_eq,
    numbers_eq, List.zip_map']

/-- Counting entries is counting the cells that have them. -/
theorem count_eq_countP (condition : α → Bool) (map : CellMap size α) :
    map.count condition = size.cells.countP fun cell => (map.get? cell).any condition := by
  have counted : size.cells.countP (fun cell => (map.get? cell).any condition) =
      (size.cells.map map.get?).countP (Option.any condition) := by
    rw [List.countP_map]
    rfl
  rw [counted, map_get?_cells, List.countP_map, count, ← Vector.countP_toList]
  rfl

end CellMap

end GridWalk
