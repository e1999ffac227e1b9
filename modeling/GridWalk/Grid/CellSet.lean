import GridWalk.Grid.Cell
import Std.Data.TreeSet.Lemmas

/-!
# Sparse sets of cells

A finite set of cells of the quarter plane, which takes room for its members only and none for the
grid they lie in. The main statements say what `contains` answers after each operation, and that
`toList` holds every member once, in row-major order.
-/

namespace GridWalk

/-- The row-major order of cells: by row, and by column within a row. -/
def Cell.rowMajor : Cell → Cell → Ordering :=
  compareLex (compareOn Cell.row) (compareOn Cell.column)

namespace Cell

instance : Std.TransCmp rowMajor :=
  inferInstanceAs (Std.TransCmp (compareLex (compareOn row) (compareOn column)))

instance : Std.LawfulEqCmp rowMajor where
  eq_of_compare {left right} same := by
    obtain ⟨leftColumn, leftRow⟩ := left
    obtain ⟨rightColumn, rightRow⟩ := right
    simp only [rowMajor, compareLex_eq_eq, compareOn, Std.compare_eq_iff_eq] at same
    rw [same.1, same.2]

end Cell

/-- A finite set of cells. -/
structure CellSet where
  /-- The members in row-major order. -/
  members : Std.TreeSet Cell Cell.rowMajor

namespace CellSet

/-- The set without members. -/
def empty : CellSet := ⟨∅⟩

/-- Whether the cell is a member. -/
def contains (set : CellSet) (cell : Cell) : Bool :=
  set.members.contains cell

/-- The set with one more member. -/
def insert (set : CellSet) (cell : Cell) : CellSet :=
  ⟨set.members.insert cell⟩

/-- The set without one cell. -/
def erase (set : CellSet) (cell : Cell) : CellSet :=
  ⟨set.members.erase cell⟩

/-- The members in row-major order. -/
def toList (set : CellSet) : List Cell :=
  set.members.toList

@[simp]
theorem contains_empty {cell : Cell} : empty.contains cell = false :=
  Std.TreeSet.contains_emptyc

@[simp]
theorem contains_insert {set : CellSet} {cell other : Cell} :
    (set.insert cell).contains other = (cell == other || set.contains other) := by
  rw [contains, insert, Std.TreeSet.contains_insert, contains]
  congr 1
  rw [Bool.eq_iff_iff]
  simp

@[simp]
theorem contains_erase {set : CellSet} {cell other : Cell} :
    (set.erase cell).contains other = (cell != other && set.contains other) := by
  rw [contains, erase, Std.TreeSet.contains_erase, contains]
  congr 1
  rw [Bool.eq_iff_iff]
  simp

@[simp]
theorem mem_toList {set : CellSet} {cell : Cell} :
    cell ∈ set.toList ↔ set.contains cell = true := by
  rw [toList, Std.TreeSet.mem_toList, Std.TreeSet.mem_iff_contains, contains]

/-- The listing follows the row-major order strictly, so no member is listed twice. -/
theorem pairwise_toList (set : CellSet) :
    set.toList.Pairwise fun cell later => Cell.rowMajor cell later = .lt :=
  Std.TreeSet.ordered_toList

end CellSet

end GridWalk
