import GridWalk.Grid.Size

/-!
# Directions

The four ways to leave a cell. A step is defined only where it ends inside a grid, so the edges of
the grid and the ends of the coordinate range are one rule.
-/

namespace GridWalk

/-- A way to step from a cell to a neighbour. -/
inductive Direction where
  /-- Toward lower rows. -/
  | north
  /-- Toward higher columns. -/
  | east
  /-- Toward higher rows. -/
  | south
  /-- Toward lower columns. -/
  | west
  deriving DecidableEq, Repr

namespace Direction

/-- The directions in the order in which neighbours are visited. -/
def all : List Direction := [north, east, south, west]

/-- The name of the direction. -/
def name : Direction → String
  | north => "North"
  | east => "East"
  | south => "South"
  | west => "West"

/-- The facing of a move to `target`. Columns are compared before rows, so a diagonal move faces
along its columns; no facing belongs to a move onto the same cell. -/
def between (source target : Cell) : Option Direction :=
  if target.column < source.column then some west
  else if source.column < target.column then some east
  else if target.row < source.row then some north
  else if source.row < target.row then some south
  else none

/-- The next cell in this direction, unless a coordinate would leave its range. -/
def next (direction : Direction) (cell : Cell) : Option Cell :=
  match direction with
  | north => if cell.row = 0 then none else some { cell with row := cell.row - 1 }
  | east => if cell.column + 1 = 0 then none else some { cell with column := cell.column + 1 }
  | south => if cell.row + 1 = 0 then none else some { cell with row := cell.row + 1 }
  | west => if cell.column = 0 then none else some { cell with column := cell.column - 1 }

/-- The neighbour in this direction, if it lies within the grid. -/
def step (direction : Direction) (size : GridSize) (cell : Cell) : Option Cell :=
  (direction.next cell).filter size.contains

theorem mem_all (direction : Direction) : direction ∈ all := by
  cases direction <;> decide

/-- The cells that the directions lead to are those that a step enters. -/
theorem mem_filterMap_step {size : GridSize} {cell neighbour : Cell} :
    neighbour ∈ all.filterMap (·.step size cell) ↔
      ∃ direction : Direction, direction.step size cell = some neighbour := by
  simp only [List.mem_filterMap, mem_all, true_and]

theorem contains_of_step {direction : Direction} {size : GridSize} {cell neighbour : Cell}
    (stepped : direction.step size cell = some neighbour) : size.contains neighbour = true := by
  simp only [step, Option.filter_eq_some_iff] at stepped
  exact stepped.2

theorem contains_of_mem_filterMap_step (size : GridSize) (cell : Cell) :
    ∀ neighbour ∈ all.filterMap (·.step size cell), size.contains neighbour = true := by
  intro neighbour member
  obtain ⟨direction, stepped⟩ := mem_filterMap_step.mp member
  exact contains_of_step stepped

end Direction

end GridWalk
