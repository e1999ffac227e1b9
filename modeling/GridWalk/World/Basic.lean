import GridWalk.Grid.CellSet
import GridWalk.Note
import GridWalk.World.Command
import GridWalk.World.Event

/-!
# The world

A grid with walls and one mover. Applying a command gives the next world, the events that tell of
the change, and notes. The walls are a set of cells of the grid; whatever lies outside the grid
counts as blocked without being a wall.
-/

namespace GridWalk

/-- The figure that walks the grid. -/
structure Mover where
  /-- The cell it stands on. -/
  cell : Cell
  /-- The direction it looks into. -/
  facing : Direction
  /-- The frame of its walk. -/
  frame : WalkFrame
  deriving DecidableEq

namespace Mover

/-- The mover before anything has happened to it. -/
def initial : Mover := ⟨Cell.origin, .south, WalkFrame.rest⟩

/-- The mover one frame later on another cell. -/
def advance (mover : Mover) (direction : Direction) (target : Cell) : Mover :=
  ⟨target, direction, WalkFrame.next mover.frame⟩

/-- The mover at rest where it stands. -/
def settle (mover : Mover) : Mover :=
  { mover with frame := WalkFrame.rest }

/-- The mover at rest on another cell. -/
def place (mover : Mover) (cell : Cell) : Mover :=
  { mover with cell := cell, frame := WalkFrame.rest }

end Mover

/-- A grid of tiles with walls and a mover. -/
structure World where
  /-- The size of the grid. -/
  size : GridSize
  /-- The tile that the grid is made of. -/
  tile : Tile
  /-- The cells of the grid that are walls. -/
  walls : CellSet
  /-- The mover. -/
  mover : Mover

/-- What a command brings about. -/
structure Reaction where
  /-- The world afterwards. -/
  world : World
  /-- The events, in order. -/
  events : List Event
  /-- Remarks, in order. -/
  notes : List Note

namespace World

/-- The world of the standard grid, without walls and with the mover at the origin. -/
def initial : World :=
  ⟨.standard, .standard, .empty, .initial⟩

/-- Whether the cell cannot be entered. Cells outside the grid count as blocked. -/
def isBlocked (world : World) (cell : Cell) : Bool :=
  !world.size.contains cell || world.walls.contains cell

/-- The walls in row-major order, as far as 32 bits hold their row-major numbers. -/
def wallCells (world : World) : List Cell :=
  world.walls.toList.filter fun cell => (world.size.index? cell).any (· < UInt32.size)

/-- Where the mover's tile is drawn. -/
def moverOrigin (world : World) : Binary32 × Binary32 :=
  world.tile.originOf world.mover.cell

/-- Whether the mover may be put onto the cell. -/
def placement (world : World) (cell : Cell) : Except PlacementError Mover :=
  if !world.size.contains cell then .error .outOfBounds
  else if world.isBlocked cell then .error .blocked
  else .ok (world.mover.place cell)

/-- The neighbour that a step of the mover would enter, if it may. -/
def stepTarget (world : World) (direction : Direction) : Option Cell :=
  (direction.step world.size world.mover.cell).filter fun cell => !world.isBlocked cell

/-- Moves the mover to a cell, whatever stands there. -/
def advance (world : World) (direction : Direction) (target : Cell) : Reaction :=
  let mover := world.mover.advance direction target
  ⟨{ world with mover := mover },
    [.moverAdvanced direction world.mover.cell target mover.frame], []⟩

/-- Carries out a command. -/
def apply (world : World) : Command → Reaction
  | .configureGrid size tile =>
      match size.clamp world.mover.cell with
      | none => ⟨world, [], [.emptyGridIgnored size]⟩
      | some cell =>
          ⟨⟨size, tile, .empty, world.mover.place cell⟩, [.gridConfigured size], []⟩
  | .setBlocked cell blocked =>
      if world.size.contains cell && world.walls.contains cell != blocked then
        let walls := if blocked then world.walls.insert cell else world.walls.erase cell
        ⟨{ world with walls := walls }, [.cellBlockChanged cell blocked], []⟩
      else
        ⟨world, [], []⟩
  | .placeMover cell =>
      match world.placement cell with
      | .ok mover => ⟨{ world with mover := mover }, [.moverPlaced cell], []⟩
      | .error reason => ⟨world, [.moverPlacementRejected cell reason], []⟩
  | .stepMover direction =>
      match world.stepTarget direction with
      | some target => world.advance direction target
      | none =>
          ⟨{ world with mover := { world.mover with facing := direction } },
            [.moverBlocked direction world.mover.cell],
            [.stepBlocked direction world.mover.cell]⟩
  | .advanceMover direction target => world.advance direction target
  | .settleMover =>
      ⟨{ world with mover := world.mover.settle }, [.moverSettled world.mover.cell], []⟩

/-- Carries out commands one after another. -/
def applyAll (world : World) : List Command → Reaction
  | [] => ⟨world, [], []⟩
  | command :: commands =>
      let first := world.apply command
      let rest := first.world.applyAll commands
      ⟨rest.world, first.events ++ rest.events, first.notes ++ rest.notes⟩

end World

end GridWalk
