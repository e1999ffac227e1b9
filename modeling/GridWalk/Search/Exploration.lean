import GridWalk.Grid.CellSet
import GridWalk.Grid.Direction
import GridWalk.Search.Route

/-!
# Best-first exploration

The state of a search. Every cell found open becomes a node, numbered in the order of discovery and
linked to the node it was found from. Nodes wait in the frontier until one of least estimate is
taken, the latest discovered among equals. A cell is marked as seen when it is first asked about and
is never looked at again.

The test for walls is a `Probe`, which may answer by what it was asked before. A plain predicate is
the special case that ignores the past.
-/

namespace GridWalk

/-- Answers whether a cell is blocked, given the cells asked about before, the latest first. -/
abbrev Probe := List Cell → Cell → Bool

/-- The probe that answers every question by the same predicate. -/
def Probe.ofPredicate (isBlocked : Cell → Bool) : Probe :=
  fun _ cell => isBlocked cell

/-- A cell that a search has found open. -/
structure SearchNode where
  /-- The cell. -/
  cell : Cell
  /-- The number of the node it was found from; the first node has none. -/
  parent : Option Nat
  /-- Steps from the start along the parents. -/
  steps : Nat
  /-- The steps and the straight line to the goal together. -/
  estimate : Length
  deriving DecidableEq, Repr

/-- The state of a search. -/
structure Exploration where
  /-- All nodes in the order of discovery. -/
  nodes : Array SearchNode
  /-- The numbers of the nodes that wait, the latest discovered first. -/
  frontier : List Nat
  /-- The cells that need not be asked about. One flag for every cell of the grid would answer alike
  (`SeenMap.run_eq_explore`). -/
  seen : CellSet
  /-- The cells that were asked about, the latest first. -/
  asked : List Cell

namespace Exploration

/-- Nothing discovered yet. -/
def empty : Exploration :=
  ⟨#[], [], .empty, []⟩

/-- Whether the cell was seen. -/
def isSeen (search : Exploration) (cell : Cell) : Bool :=
  search.seen.contains cell

/-- Marks a cell as seen. -/
def markSeen (search : Exploration) (cell : Cell) : Exploration :=
  { search with seen := search.seen.insert cell }

/-- The steps of a node that is found from `parent`. -/
def childSteps (search : Exploration) (parent : Option Nat) : Nat :=
  match parent.bind (search.nodes[·]?) with
  | some node => node.steps + 1
  | none => 0

/-- Makes an open cell a node, lets it wait and marks it as seen. -/
def insert (search : Exploration) (goal cell : Cell) (parent : Option Nat) : Exploration :=
  let number := search.nodes.size
  let steps := search.childSteps parent
  let node : SearchNode := ⟨cell, parent, steps, Length.ofNat steps + cell.euclidean goal⟩
  { search with
    nodes := search.nodes.push node
    frontier := number :: search.frontier
    seen := search.seen.insert cell }

/-- The estimate of a node. -/
def estimate (nodes : Array SearchNode) (number : Nat) : Length :=
  match nodes[number]? with
  | some node => node.estimate
  | none => ⟨0⟩

/-- Of a node whose estimate is known and those behind it, the first one of least estimate. -/
def best (nodes : Array SearchNode) (number : Nat) (least : Length) : List Nat → Nat
  | [] => number
  | other :: rest =>
      let length := estimate nodes other
      if least ≤ length then best nodes number least rest else best nodes other length rest

/-- Takes the best node out of the frontier, unless none waits. -/
def takeBest (search : Exploration) : Option (Nat × Exploration) :=
  match search.frontier with
  | [] => none
  | first :: rest =>
      let number := best search.nodes first (estimate search.nodes first) rest
      some (number, { search with frontier := (first :: rest).erase number })

/-- Looks at a neighbour of the node `parent`. A cell seen before is passed over, any other is asked
about once; a blocked one is only marked, an open one becomes a node. -/
def visit (probe : Probe) (goal : Cell) (parent : Nat) (search : Exploration) (cell : Cell) :
    Exploration :=
  if search.isSeen cell then
    search
  else
    let blocked := probe search.asked cell
    let search := { search with asked := cell :: search.asked }
    if blocked then search.markSeen cell else search.insert goal cell (some parent)

/-- Looks at all neighbours of a cell within the grid, in the order of `Direction.all`. -/
def expand (size : GridSize) (probe : Probe) (goal : Cell) (number : Nat) (cell : Cell)
    (search : Exploration) : Exploration :=
  (Direction.all.filterMap (·.step size cell)).foldl (visit probe goal number) search

/-- The cells from the first node, which is left out, to the given one, with others behind them. -/
def trail (nodes : Array SearchNode) (number : Nat) (behind : List Cell) : List Cell :=
  match nodes[number]? with
  | some ⟨cell, some parent, _, _⟩ =>
      if parent < number then trail nodes parent (cell :: behind) else behind
  | _ => behind
termination_by number

/-- The route from the first node to the given one. -/
def route (search : Exploration) (number : Nat) : Route :=
  ⟨trail search.nodes number []⟩

/-- How the main loop of a search ended. -/
structure Finish where
  /-- The state when it ended. -/
  search : Exploration
  /-- How many nodes were taken out of the frontier. -/
  expanded : Nat
  /-- The node on the goal, if it was taken out. -/
  reached : Option Nat

/-- Takes nodes out of the frontier and expands them until the goal is among them, none waits or the
budget is spent. -/
def run (size : GridSize) (probe : Probe) (goal : Cell) :
    (budget expanded : Nat) → Exploration → Finish
  | 0, expanded, search => ⟨search, expanded, none⟩
  | budget + 1, expanded, search =>
      match search.takeBest with
      | none => ⟨search, expanded, none⟩
      | some (number, search) =>
          match search.nodes[number]? with
          | none => ⟨search, expanded + 1, none⟩
          | some node =>
              if node.cell = goal then
                ⟨search, expanded + 1, some number⟩
              else
                run size probe goal budget (expanded + 1)
                  (search.expand size probe goal number node.cell)

end Exploration

end GridWalk
