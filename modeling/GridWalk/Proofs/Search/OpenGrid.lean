import GridWalk.Proofs.Grid.StraightLine
import GridWalk.Proofs.Grid.Taxicab
import GridWalk.Proofs.Search.Trail

/-!
# Searches on a grid without walls

A search never looks at a cell again, so a cell that is first found by a detour keeps it. On a grid
without walls none is. If the best node could step to an unseen cell that is nearer to the start, it
was itself found from another such cell, and the two have a common neighbour that is nearer still.
That neighbour still waits, and the two steps that it is ahead count for more than the straight line
of a diagonal, whatever is lost by rounding; so it would have been taken out first.
-/

namespace GridWalk

/-- No cell of the grid is blocked, whenever the probe is asked about it. -/
def Probe.Vacant (size : GridSize) (probe : Probe) : Prop :=
  ∀ cell, size.contains cell = true → ∀ asked, probe asked cell = false

/-- A cell about which every answer is open was answered open if it was asked about. -/
theorem Probe.answer?_eq_some_false {probe : Probe} {asked : List Cell} {cell : Cell}
    (vacant : ∀ earlier, probe earlier cell = false) (member : cell ∈ asked) :
    probe.answer? asked cell = some false := by
  induction asked with
  | nil => cases member
  | cons latest earlier induction =>
      rw [answer?]
      split
      · rename_i same
        rw [same, vacant earlier]
      · rename_i differs
        exact induction ((List.mem_cons.mp member).resolve_left (Ne.symm differs))

namespace Exploration

variable {size : GridSize} {probe : Probe} {start goal cell next : Cell}
  {search later : Exploration} {number expanded : Nat} {node : SearchNode}

/-- Where nothing is blocked, every cell that was seen became a node. -/
theorem Ledger.exists_node (ledger : search.Ledger probe start)
    (vacant : ∀ earlier, probe earlier cell = false) (seen : search.isSeen cell = true) :
    ∃ (number : Nat) (node : SearchNode), search.nodes[number]? = some node ∧ node.cell = cell := by
  rw [ledger.node_iff]
  exact (ledger.seen_iff.mp seen).imp_right (Probe.answer?_eq_some_false vacant)

/-- Every node lies as many steps from the start as its cell. -/
def Direct (start : Cell) (search : Exploration) : Prop :=
  ∀ (number : Nat) (node : SearchNode), search.nodes[number]? = some node →
    node.steps = start.steps node.cell

namespace Loop

/-- If a node other than the first steps to an unseen cell that is nearer to the start, a diagonal
neighbour of it that is nearer by two steps waits. -/
theorem exists_waiting_corner (state : Loop size probe start goal expanded search)
    (start_inside : size.contains start = true) (vacant : probe.Vacant size)
    (direct : search.Direct start) (known : search.nodes[number]? = some node)
    {direction : Direction} (stepped : direction.step size node.cell = some next)
    (unseen : search.isSeen next = false)
    (next_nearer : start.steps next + 1 = start.steps node.cell) :
    ∃ corner cornerNode, corner ∈ search.frontier ∧
      search.nodes[corner]? = some cornerNode ∧ cornerNode.steps + 2 = node.steps ∧
      Cell.gap cornerNode.cell.column node.cell.column = 1 ∧
      Cell.gap cornerNode.cell.row node.cell.row = 1 := by
  obtain ⟨next_inside, next_adjacent⟩ := exists_step_iff.mp ⟨direction, stepped⟩
  have positive : number ≠ 0 := by
    rintro rfl
    obtain ⟨estimate, rfl⟩ := state.tree.eq_root known
    simp at next_nearer
  obtain ⟨parent, parentNode, -, -, parentKnown, parentTaken, steps_eq, parent_steps⟩ :=
    state.tree.child known positive
  have parent_adjacent := (exists_step_iff.mp parent_steps).2
  have parent_inside := state.tree.contains start_inside parentKnown
  rw [direct number node known, direct parent parentNode parentKnown] at steps_eq
  have apart : parentNode.cell ≠ next := by
    rintro rfl
    rw [state.ledger.seen_of_node parentKnown] at unseen
    cases unseen
  obtain ⟨cell, inside, to_cell, from_cell, cell_nearer, columns, rows⟩ :=
    Cell.exists_corner parent_inside next_inside apart parent_adjacent next_adjacent steps_eq.symm
      next_nearer
  obtain ⟨inward, stepped_in⟩ := exists_step_iff.mpr ⟨inside, to_cell⟩
  obtain ⟨outward, stepped_out⟩ := exists_step_iff.mpr ⟨next_inside, from_cell⟩
  -- The parent was taken out, so it has looked at the corner; the corner would have seen `next`.
  have seen := (state.closed parentKnown parentTaken).2 inward cell stepped_in
  obtain ⟨corner, cornerNode, cornerKnown, rfl⟩ :=
    state.ledger.exists_node (vacant cell inside) seen
  have waits : corner ∈ search.frontier := by
    by_contra taken
    rw [(state.closed cornerKnown taken).2 outward next stepped_out] at unseen
    cases unseen
  refine ⟨corner, cornerNode, waits, cornerKnown, ?_, columns, rows⟩
  rw [direct number node known, direct corner cornerNode cornerKnown, cell_nearer]

/-- The best node only steps to unseen cells that are farther from the start. -/
theorem steps_of_unseen (state : Loop size probe start goal expanded search)
    (start_inside : size.contains start = true) (vacant : probe.Vacant size)
    (direct : search.Direct start) (took : search.takeBest = some (number, later))
    (known : search.nodes[number]? = some node) {direction : Direction}
    (stepped : direction.step size node.cell = some next) (unseen : search.isSeen next = false) :
    start.steps next = node.steps + 1 := by
  have adjacent := (exists_step_iff.mp ⟨direction, stepped⟩).2
  rw [direct number node known]
  refine (Cell.steps_of_adjacent start adjacent).resolve_right ?_
  intro nearer
  obtain ⟨corner, cornerNode, waits, cornerKnown, ahead, columns, rows⟩ :=
    state.exists_waiting_corner start_inside vacant direct known stepped unseen nearer
  have least := estimate_le_of_takeBest took waits
  rw [estimate_of_known known, estimate_of_known cornerKnown,
    state.estimated number node known, state.estimated corner cornerNode cornerKnown,
    ← ahead] at least
  have small : cornerNode.steps + 2 ≤ 2 ^ 33 := by
    rw [ahead, direct number node known]
    exact Cell.steps_le start node.cell
  exact not_estimate_le columns rows small goal least

/-- A node on a cell that was seen before the best node was expanded is not a new one. -/
theorem known_of_seen (state : Loop size probe start goal expanded search)
    (vacant : probe.Vacant size) (took : search.takeBest = some (number, later))
    (known : later.nodes[number]? = some node) {other : Nat} {otherNode : SearchNode}
    (otherKnown : (later.expand size probe goal number node.cell).nodes[other]? = some otherNode)
    (inside : size.contains otherNode.cell = true)
    (seen : search.isSeen otherNode.cell = true) : search.nodes[other]? = some otherNode := by
  obtain ⟨last, extension, -⟩ := (state.expanding took known).expand goal
  obtain ⟨old, oldNode, oldKnown, same⟩ := state.ledger.exists_node (vacant _ inside) seen
  obtain ⟨-, rfl⟩ := eq_of_takeBest took
  have kept := extension.nodes oldKnown
  obtain rfl := last.tree.distinct kept otherKnown same
  rwa [← otherKnown, kept]

/-- On a grid without walls every node lies as many steps from the start as its cell. -/
theorem direct (state : Loop size probe start goal expanded search)
    (start_inside : size.contains start = true) (vacant : probe.Vacant size) :
    search.Direct start := by
  induction state with
  | first =>
      intro number node known
      obtain ⟨-, rfl⟩ := getElem?_first.mp known
      exact (Cell.steps_self start).symm
  | @next expanded taken takenNode search later state took takenKnown misses induction =>
      intro number node known
      have after := (state.next took takenKnown misses).tree
      rcases Nat.eq_zero_or_pos number with rfl | positive
      · obtain ⟨estimate, rfl⟩ := after.eq_root known
        exact (Cell.steps_self start).symm
      obtain ⟨parent, parentNode, -, -, parentKnown, parentTaken, steps_eq, direction, stepped⟩ :=
        after.child known positive.ne'
      obtain ⟨parent_before, taken_before⟩ :=
        state.taken_of_expand took takenKnown parentKnown parentTaken
      -- A new node was found from the node that was taken out, on a cell not seen before.
      cases seen : search.isSeen node.cell with
      | true =>
          have inside := Direction.contains_of_step stepped
          exact induction number node (state.known_of_seen vacant took takenKnown known inside seen)
      | false =>
          rcases taken_before with taken_before | rfl
          · rw [(state.closed parent_before taken_before).2 direction node.cell stepped] at seen
            cases seen
          · rw [steps_eq, state.steps_of_unseen start_inside vacant induction took parent_before
              stepped seen]

end Loop

end Exploration

namespace SearchConfig

open Exploration

/-- On a grid without walls every route that a search returns is as short as the columns and rows
between its ends allow, whatever the search may spend. -/
theorem length_eq_steps_of_findPath (config : SearchConfig) (size : GridSize) (start goal : Cell)
    (probe : Probe) (vacant : probe.Vacant size) (route : Route)
    (found : (config.findPath size start goal probe).result = .ok route) :
    route.length = start.steps goal := by
  have start_inside := (inside_of_findPath found (by simp)).1
  obtain ⟨expanded, number, node, search, taken, state, took, known, rfl, within, cells_eq⟩ :=
    reached_of_findPath found
  rw [Route.length, cells_eq, state.tree.length_trail known,
    state.direct start_inside vacant number node known]

/-- From corner to corner of four by three cells; outside the grid everything is blocked. -/
theorem length_eq_steps_corner_to_corner :
    let size : GridSize := ⟨4, 3⟩
    let probe := Probe.ofPredicate fun cell => !size.contains cell
    ∃ route, (findPath ⟨12⟩ size ⟨0, 2⟩ ⟨3, 0⟩ probe).result = .ok route ∧
      route.length = Cell.steps ⟨0, 2⟩ ⟨3, 0⟩ ∧ Cell.steps ⟨0, 2⟩ ⟨3, 0⟩ = 5 := by
  intro size probe
  have found : (findPath ⟨12⟩ size ⟨0, 2⟩ ⟨3, 0⟩ probe).result =
      .ok ⟨[⟨1, 2⟩, ⟨2, 2⟩, ⟨2, 1⟩, ⟨3, 1⟩, ⟨3, 0⟩]⟩ := by decide +kernel
  refine ⟨_, found, ?_, by decide⟩
  refine length_eq_steps_of_findPath ⟨12⟩ size ⟨0, 2⟩ ⟨3, 0⟩ probe ?_ _ found
  intro cell inside earlier
  simp [probe, Probe.ofPredicate, inside]

end SearchConfig

end GridWalk
