import GridWalk.Grid.Cell

/-!
# Searches without a route

The ordinary negative answers of a search.
-/

namespace GridWalk

/-- Why a search has no route to offer. -/
inductive NoPath where
  | outOfBounds (cell : Cell)
  | exhausted (expanded : Nat)
  | iterationCap (cap : UInt32)
  deriving DecidableEq, Repr

namespace NoPath

/-- The sentence shown for the answer. -/
def message : NoPath → String
  | outOfBounds cell => s!"cell ({cell.column}, {cell.row}) lies outside the grid"
  | exhausted expanded => s!"goal is unreachable after expanding {expanded} cells"
  | iterationCap cap => s!"search gave up after {cap} expansions"

end NoPath

end GridWalk
