import GridWalk.Grid.Direction
import GridWalk.Grid.Tile

/-!
# Commands

Everything that may be asked of a world. Hosts and the movement controller change a world by
commands alone.
-/

namespace GridWalk

/-- A change asked of a world. -/
inductive Command where
  /-- Replaces the grid by a fresh one without walls. -/
  | configureGrid (size : GridSize) (tile : Tile)
  /-- Puts a wall on a cell or takes it away. -/
  | setBlocked (cell : Cell) (blocked : Bool)
  /-- Puts the mover onto a cell. -/
  | placeMover (cell : Cell)
  /-- Lets the mover step into a direction if no wall stands there. -/
  | stepMover (direction : Direction)
  /-- Moves the mover along a planned route, walls or not. -/
  | advanceMover (direction : Direction) (target : Cell)
  /-- Lets the mover come to rest. -/
  | settleMover
  deriving DecidableEq

end GridWalk
