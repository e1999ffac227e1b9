import GridWalk.Note
import GridWalk.Search.Exploration

/-!
# Path finding

A search between two cells of a grid: its answer, the questions it asked and what it noted.
-/

namespace GridWalk

/-- The tunable part of a search. -/
structure SearchConfig where
  /-- The greatest number of expansions. -/
  iterationCap : UInt32 := 1000
  deriving DecidableEq, Repr

/-- Everything a search has to say. -/
structure SearchReport where
  /-- The route, or why there is none. -/
  result : Except NoPath Route
  /-- The cells asked about, the first one first. -/
  asked : List Cell
  /-- Remarks on the search. -/
  notes : List Note

namespace SearchConfig

/-- The first of the two cells that lies outside the grid. -/
def outside? (size : GridSize) (start goal : Cell) : Option Cell :=
  [start, goal].find? fun cell => !size.contains cell

/-- The main loop of a search between two cells of the grid. -/
def explore (config : SearchConfig) (size : GridSize) (start goal : Cell) (probe : Probe) :
    Exploration.Finish :=
  (Exploration.empty.insert goal start none).run size probe goal config.iterationCap.toNat 0

/-- The answer that an ended main loop gives. When the goal was not met, cells that still wait show
that the budget ran out. -/
def conclude (config : SearchConfig) (finish : Exploration.Finish) : Except NoPath Route :=
  match finish.reached with
  | some number => .ok (finish.search.route number)
  | none =>
      if finish.search.frontier.isEmpty then
        .error (.exhausted finish.expanded)
      else
        .error (.iterationCap config.iterationCap)

/-- Searches a route from `start`, which the route leaves out, to `goal`. -/
def findPath (config : SearchConfig) (size : GridSize) (start goal : Cell) (probe : Probe) :
    SearchReport :=
  match outside? size start goal with
  | some cell => ⟨.error (.outOfBounds cell), [], []⟩
  | none =>
      let finish := config.explore size start goal probe
      { result := config.conclude finish
        asked := finish.search.asked.reverse
        notes := [.searched start goal finish.expanded] }

end SearchConfig

end GridWalk
