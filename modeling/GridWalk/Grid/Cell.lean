import GridWalk.Number.Binary

/-!
# Cells

A cell is a place on an unbounded quarter plane of tiles, named by its column and row. Distances
between cells come in two kinds: steps along columns and rows, and the straight line.
-/

namespace GridWalk

/-- The place of one tile. -/
structure Cell where
  /-- Zero-based column, counted from the west. -/
  column : UInt32
  /-- Zero-based row, counted from the north. -/
  row : UInt32
  deriving DecidableEq, Repr

namespace Cell

/-- The cell in the first column of the first row. -/
def origin : Cell := ⟨0, 0⟩

/-- The gap between two coordinates. -/
def gap (left right : UInt32) : Nat :=
  (left.toNat - right.toNat) + (right.toNat - left.toNat)

/-- The columns plus the rows between two cells. -/
def steps (cell other : Cell) : Nat :=
  gap cell.column other.column + gap cell.row other.row

/-- The columns plus the rows between two cells, if a 32-bit number holds them. -/
def manhattan? (cell other : Cell) : Option UInt32 :=
  if cell.steps other < UInt32.size then some (UInt32.ofNat (cell.steps other)) else none

/-- The straight-line distance between two cells. -/
def euclidean (cell other : Cell) : Length :=
  Length.hypotenuse (gap cell.column other.column) (gap cell.row other.row)

end Cell

end GridWalk
