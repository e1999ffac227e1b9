import GridWalk.Grid.Direction

/-!
# Events

Everything that a world reports about its own changes, in the order in which they happen.
-/

namespace GridWalk

/-- The number of frames of the walking animation. -/
def walkFrameCount : Nat := 9

/-- A frame of the walking animation; the first one is the resting pose. -/
abbrev WalkFrame : Type := Fin walkFrameCount

namespace WalkFrame

/-- The resting pose. -/
def rest : WalkFrame := ⟨0, Nat.succ_pos 8⟩

/-- The frame after another; the resting pose follows the last one. -/
def next (frame : WalkFrame) : WalkFrame :=
  ⟨(frame.val + 1) % walkFrameCount, Nat.mod_lt _ (Nat.succ_pos 8)⟩

end WalkFrame

/-- Why the mover cannot be put onto a cell. -/
inductive PlacementError where
  | outOfBounds
  | blocked
  deriving DecidableEq, Repr

namespace PlacementError

/-- All reasons. -/
def all : List PlacementError := [outOfBounds, blocked]

/-- The name of the reason. -/
def name : PlacementError → String
  | outOfBounds => "OutOfBounds"
  | blocked => "Blocked"

end PlacementError

/-- A change that a world went through, or refused. -/
inductive Event where
  | gridConfigured (size : GridSize)
  | cellBlockChanged (cell : Cell) (blocked : Bool)
  | moverPlaced (cell : Cell)
  | moverPlacementRejected (cell : Cell) (reason : PlacementError)
  | moverAdvanced (direction : Direction) (source target : Cell) (frame : WalkFrame)
  | moverBlocked (direction : Direction) (cell : Cell)
  | moverSettled (cell : Cell)
  deriving DecidableEq

end GridWalk
