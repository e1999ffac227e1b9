import GridWalk.Grid.Cell

/-!
# Routes

The cells still to be entered, in travel order. A route never holds the cell it starts from.
-/

namespace GridWalk

/-- Cells to enter one after another. -/
structure Route where
  /-- The remaining cells, the next one first. -/
  cells : List Cell
  deriving DecidableEq, Repr

namespace Route

/-- Number of steps left. -/
def length (route : Route) : Nat := route.cells.length

/-- Whether no step is left. -/
def isEmpty (route : Route) : Bool := route.cells.isEmpty

/-- The next cell to enter and the route behind it, unless no step is left. -/
def pop? (route : Route) : Option (Cell × Route) :=
  match route.cells with
  | [] => none
  | next :: rest => some (next, ⟨rest⟩)

end Route

end GridWalk
