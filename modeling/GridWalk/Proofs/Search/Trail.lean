import GridWalk.Proofs.Grid.OpenStep
import GridWalk.Proofs.Search.Loop

/-!
# The route of a search

The route to a node is gathered along the parents. As a parent was found before its children, the
gathering ends at the first node; what it gathers steps from the start to the node and enters no
cell twice. The main statement says that whatever route a search returns may be walked.
-/

namespace GridWalk
namespace Exploration

variable {size : GridSize} {probe : Probe} {isBlocked : Cell → Bool} {start goal : Cell}
  {search : Exploration} {nodes : Array SearchNode} {number parent expanded : Nat}
  {node : SearchNode}

/-! ## Gathering cells -/

theorem trail_of_root (known : nodes[number]? = some node) (orphan : node.parent = none)
    (behind : List Cell) : trail nodes number behind = behind := by
  obtain ⟨cell, _, steps, estimate⟩ := node
  cases orphan
  rw [trail, known]

theorem trail_of_child (known : nodes[number]? = some node) (found : node.parent = some parent)
    (parent_lt : parent < number) (behind : List Cell) :
    trail nodes number behind = trail nodes parent (node.cell :: behind) := by
  obtain ⟨cell, _, steps, estimate⟩ := node
  cases found
  rw [trail, known]
  simp [parent_lt]

theorem trail_eq_append (nodes : Array SearchNode) (number : Nat) (behind : List Cell) :
    trail nodes number behind = trail nodes number [] ++ behind := by
  induction number using Nat.strong_induction_on generalizing behind with
  | _ number induction =>
      rw [trail.eq_def nodes number behind, trail.eq_def nodes number []]
      split
      · rename_i cell parent _ _ _
        split
        · rename_i parent_lt
          rw [induction parent parent_lt (cell :: behind), induction parent parent_lt [cell]]
          simp
        · rfl
      · rfl

namespace Tree

/-- What holds of the first node and passes from parents to children holds of every node. -/
theorem induction_on {motive : Nat → SearchNode → Prop} (tree : search.Tree size start)
    (known : search.nodes[number]? = some node)
    (root : ∀ estimate, motive 0 ⟨start, none, 0, estimate⟩)
    (child : ∀ {number parent : Nat} {node parentNode : SearchNode},
      search.nodes[number]? = some node → node.parent = some parent → parent < number →
      search.nodes[parent]? = some parentNode → node.steps = parentNode.steps + 1 →
      (∃ direction : Direction, direction.step size parentNode.cell = some node.cell) →
      motive parent parentNode → motive number node) :
    motive number node := by
  induction number using Nat.strong_induction_on generalizing node with
  | _ number induction =>
      rcases Nat.eq_zero_or_pos number with rfl | positive
      · obtain ⟨estimate, rfl⟩ := tree.eq_root known
        exact root estimate
      · obtain ⟨parent, parentNode, parent_eq, parent_lt, parentKnown, -, steps_eq, step⟩ :=
          tree.child known positive.ne'
        exact child known parent_eq parent_lt parentKnown steps_eq step
          (induction parent parent_lt parentKnown)

theorem trail_zero (tree : search.Tree size start) (behind : List Cell) :
    trail search.nodes 0 behind = behind := by
  obtain ⟨estimate, first⟩ := tree.root
  exact trail_of_root first rfl behind

theorem trail_child (known : search.nodes[number]? = some node) (found : node.parent = some parent)
    (parent_lt : parent < number) :
    trail search.nodes number [] = trail search.nodes parent [] ++ [node.cell] := by
  rw [trail_of_child known found parent_lt, trail_eq_append]

/-- As many cells are gathered as the node lies steps from the start. -/
theorem length_trail (tree : search.Tree size start)
    (known : search.nodes[number]? = some node) :
    (trail search.nodes number []).length = node.steps := by
  refine tree.induction_on (motive := fun number node =>
    (trail search.nodes number []).length = node.steps) known ?_ ?_
  · intro estimate
    rw [tree.trail_zero, List.length_nil]
  · intro number parent node parentNode known found parent_lt _ steps_eq _ length_eq
    rw [trail_child known found parent_lt, List.length_append, length_eq, steps_eq,
      List.length_singleton]

/-- Every gathered cell is that of a node found after the start and no later than the last one. -/
theorem exists_node_of_mem_trail (tree : search.Tree size start)
    (known : search.nodes[number]? = some node) {cell : Cell}
    (member : cell ∈ trail search.nodes number []) :
    ∃ (other : Nat) (otherNode : SearchNode), 0 < other ∧ other ≤ number ∧
      search.nodes[other]? = some otherNode ∧ otherNode.cell = cell := by
  revert member
  refine tree.induction_on (motive := fun number _ => cell ∈ trail search.nodes number [] →
    ∃ (other : Nat) (otherNode : SearchNode), 0 < other ∧ other ≤ number ∧
      search.nodes[other]? = some otherNode ∧ otherNode.cell = cell) known ?_ ?_
  · intro estimate member
    rw [tree.trail_zero] at member
    cases member
  · intro number parent node parentNode known found parent_lt _ _ _ earlier member
    rw [trail_child known found parent_lt, List.mem_append, List.mem_singleton] at member
    rcases member with member | rfl
    · obtain ⟨other, otherNode, positive, other_le, rest⟩ := earlier member
      exact ⟨other, otherNode, positive, by omega, rest⟩
    · exact ⟨number, node, by omega, Nat.le_refl number, known, rfl⟩

/-- Along the parents the numbers fall, so no cell is gathered twice and the start never. -/
theorem nodup_trail (tree : search.Tree size start)
    (known : search.nodes[number]? = some node) :
    (start :: trail search.nodes number []).Nodup := by
  refine tree.induction_on (motive := fun number _ =>
    (start :: trail search.nodes number []).Nodup) known ?_ ?_
  · intro estimate
    rw [tree.trail_zero]
    exact List.nodup_singleton start
  · intro number parent node parentNode known found parent_lt parentKnown _ _ nodup
    obtain ⟨estimate, first⟩ := tree.root
    rw [trail_child known found parent_lt, ← List.cons_append]
    refine nodup.append (List.nodup_singleton node.cell) ?_
    rw [List.disjoint_singleton, List.mem_cons, not_or]
    constructor
    · intro same
      have := tree.distinct known first same
      omega
    · intro member
      obtain ⟨other, otherNode, -, other_le, otherKnown, same⟩ :=
        tree.exists_node_of_mem_trail parentKnown member
      have := tree.distinct otherKnown known same
      omega

/-- The gathered cells are entered by steps one after another. -/
theorem isRoute_trail (tree : search.Tree size start)
    (vacant : ∀ {number : Nat} {node : SearchNode}, search.nodes[number]? = some node →
      number ≠ 0 → isBlocked node.cell = false)
    (known : search.nodes[number]? = some node) :
    IsRoute size isBlocked start node.cell (trail search.nodes number []) := by
  refine tree.induction_on (motive := fun number node =>
    IsRoute size isBlocked start node.cell (trail search.nodes number [])) known ?_ ?_
  · intro estimate
    rw [tree.trail_zero]
    exact isRoute_nil.mpr rfl
  · intro number parent node parentNode known found parent_lt _ _ step route
    rw [trail_child known found parent_lt, isRoute_append_singleton]
    exact ⟨rfl, parentNode.cell, route, step, vacant known (by omega)⟩

end Tree

/-- A plain predicate answered open for every node but the first. -/
theorem Loop.vacant (state : Loop size (Probe.ofPredicate isBlocked) start goal expanded search)
    (known : search.nodes[number]? = some node) (positive : number ≠ 0) :
    isBlocked node.cell = false := by
  rcases state.ledger.node_iff.mp ⟨number, node, known, rfl⟩ with on_start | answered
  · obtain ⟨estimate, first⟩ := state.tree.root
    exact (positive (state.tree.distinct known first on_start)).elim
  · rw [Probe.answer?_ofPredicate] at answered
    split at answered
    · exact Option.some.inj answered
    · cases answered

/-- The route to every node enters open cells by steps. -/
theorem Loop.isRoute (state : Loop size (Probe.ofPredicate isBlocked) start goal expanded search)
    (known : search.nodes[number]? = some node) :
    IsRoute size isBlocked start node.cell (trail search.nodes number []) :=
  state.tree.isRoute_trail state.vacant known

end Exploration

/-! ## Answers of a search -/

namespace SearchConfig

open Exploration

variable {config : SearchConfig} {size : GridSize} {probe : Probe} {isBlocked : Cell → Bool}
  {start goal : Cell} {route : Route}

theorem outside?_eq_none_iff :
    outside? size start goal = none ↔
      size.contains start = true ∧ size.contains goal = true := by
  simp [outside?]

/-- A search within the grid answers what the end of its main loop means. -/
theorem findPath_result (config : SearchConfig) (start_inside : size.contains start = true)
    (goal_inside : size.contains goal = true) (probe : Probe) :
    (config.findPath size start goal probe).result =
      config.conclude (config.explore size start goal probe) := by
  simp [findPath, outside?_eq_none_iff.mpr ⟨start_inside, goal_inside⟩]

/-- A search that does not complain about a cell outside the grid is one within the grid. -/
theorem inside_of_findPath {result : Except NoPath Route}
    (answer : (config.findPath size start goal probe).result = result)
    (content : ∀ cell, result ≠ .error (.outOfBounds cell)) :
    size.contains start = true ∧ size.contains goal = true := by
  rw [← outside?_eq_none_iff]
  cases outside : outside? size start goal with
  | none => rfl
  | some cell =>
      rw [findPath, outside] at answer
      exact (content cell answer.symm).elim

/-- A route is answered when a node on the goal is taken out, and it is the route to that node. -/
theorem reached_of_findPath (found : (config.findPath size start goal probe).result = .ok route) :
    ∃ (expanded number : Nat) (node : SearchNode) (search taken : Exploration),
      Loop size probe start goal expanded search ∧ search.takeBest = some (number, taken) ∧
      search.nodes[number]? = some node ∧ node.cell = goal ∧
      expanded < config.iterationCap.toNat ∧
      route.cells = trail search.nodes number [] := by
  obtain ⟨start_inside, goal_inside⟩ := inside_of_findPath found (by simp)
  rw [findPath_result config start_inside goal_inside] at found
  have ending := config.explore_ends size start goal probe
  generalize config.explore size start goal probe = finish at ending found
  cases ending with
  | @reached expanded number node search taken state took known hits within =>
      obtain rfl := Except.ok.inj found
      obtain ⟨-, rfl⟩ := eq_of_takeBest took
      exact ⟨expanded, number, node, search, _, state, took, known, hits, within, rfl⟩
  | exhausted _ idle => simp [conclude, idle] at found
  | spent =>
      simp only [conclude] at found
      split at found <;> cases found

/-- A route that is answered enters open cells by steps and ends on the goal. -/
theorem isRoute_of_findPath
    (found : (config.findPath size start goal (Probe.ofPredicate isBlocked)).result = .ok route) :
    IsRoute size isBlocked start goal route.cells := by
  obtain ⟨expanded, number, node, search, taken, state, took, known, rfl, within, cells_eq⟩ :=
    reached_of_findPath found
  rw [cells_eq]
  exact state.isRoute known

/-- A route that is answered enters no cell twice and never its start. -/
theorem nodup_of_findPath (found : (config.findPath size start goal probe).result = .ok route) :
    (start :: route.cells).Nodup := by
  obtain ⟨expanded, number, node, search, taken, state, took, known, hits, within, cells_eq⟩ :=
    reached_of_findPath found
  rw [cells_eq]
  exact state.tree.nodup_trail known

/-- Every cell of an answered route, and its start, cost an expansion. -/
theorem length_add_one_le_of_findPath
    (found : (config.findPath size start goal probe).result = .ok route) :
    route.length + 1 ≤ config.iterationCap.toNat := by
  obtain ⟨expanded, number, node, search, taken, state, took, known, hits, within, cells_eq⟩ :=
    reached_of_findPath found
  have steps_le := state.steps_le known
  have length_eq := state.tree.length_trail known
  rw [Route.length, cells_eq]
  omega

/-! ## Routes that may be walked -/

/-- A route that may be walked from a start to a goal without coming to any cell twice. -/
structure IsSimpleRoute (size : GridSize) (isBlocked : Cell → Bool) (start goal : Cell)
    (route : Route) : Prop where
  /-- Every cell is a neighbour of the cell before it, the first one of the start. -/
  steps : (start :: route.cells).IsChain fun cell next =>
    ∃ direction : Direction, direction.step size cell = some next
  /-- Every cell lies in the grid. -/
  inside : ∀ cell ∈ route.cells, size.contains cell = true
  /-- No cell is blocked. -/
  vacant : ∀ cell ∈ route.cells, isBlocked cell = false
  /-- No cell occurs twice. -/
  nodup : route.cells.Nodup
  /-- The start does not occur. -/
  start_notMem : start ∉ route.cells
  /-- The last cell is the goal. -/
  ends : ∀ last ∈ route.cells.getLast?, last = goal
  /-- No cell has to be entered exactly when the start is the goal. -/
  isEmpty_iff : route.isEmpty = true ↔ start = goal

/-- Whatever route a search returns may be walked, and has fewer steps than the search was allowed
expansions. -/
theorem isSimpleRoute_of_findPath (config : SearchConfig) (size : GridSize) (start goal : Cell)
    (isBlocked : Cell → Bool) (route : Route)
    (found : (config.findPath size start goal (Probe.ofPredicate isBlocked)).result = .ok route) :
    IsSimpleRoute size isBlocked start goal route ∧
      route.length + 1 ≤ config.iterationCap.toNat := by
  have isRoute := isRoute_of_findPath found
  have distinct := List.nodup_cons.mp (nodup_of_findPath found)
  refine ⟨⟨?_, ?_, ?_, distinct.2, distinct.1, ?_, ?_⟩, length_add_one_le_of_findPath found⟩
  · exact isRoute.steps.imp fun _ _ step => step.1
  · intro cell member
    exact (isRoute.contains_and_vacant_of_mem member).1
  · intro cell member
    exact (isRoute.contains_and_vacant_of_mem member).2
  · intro last last_mem
    rcases isRoute.eq_nil_or_getLast? with ⟨nothing, -⟩ | last_eq
    · rw [nothing] at last_mem
      cases last_mem
    · rw [last_eq] at last_mem
      exact (Option.some.inj last_mem).symm
  · rw [Route.isEmpty, List.isEmpty_iff]
    rcases isRoute.eq_nil_or_getLast? with ⟨nothing, same⟩ | last_eq
    · exact iff_of_true nothing same
    · have goal_mem := List.mem_of_getLast? last_eq
      refine iff_of_false (List.ne_nil_of_mem goal_mem) ?_
      rintro rfl
      exact distinct.1 goal_mem

/-- Around a wall from corner to corner of three by three cells. -/
theorem isSimpleRoute_around_wall :
    let isBlocked (cell : Cell) := cell = ⟨1, 0⟩ || cell = ⟨1, 1⟩
    let route : Route := ⟨[⟨0, 1⟩, ⟨0, 2⟩, ⟨1, 2⟩, ⟨2, 2⟩, ⟨2, 1⟩, ⟨2, 0⟩]⟩
    (findPath ⟨7⟩ ⟨3, 3⟩ ⟨0, 0⟩ ⟨2, 0⟩ (Probe.ofPredicate isBlocked)).result = .ok route ∧
      IsSimpleRoute ⟨3, 3⟩ isBlocked ⟨0, 0⟩ ⟨2, 0⟩ route ∧ route.length + 1 ≤ 7 := by
  intro isBlocked route
  have found : (findPath ⟨7⟩ ⟨3, 3⟩ ⟨0, 0⟩ ⟨2, 0⟩ (Probe.ofPredicate isBlocked)).result =
      .ok route := by decide +kernel
  exact ⟨found, isSimpleRoute_of_findPath ⟨7⟩ ⟨3, 3⟩ ⟨0, 0⟩ ⟨2, 0⟩ isBlocked route found⟩

end SearchConfig

end GridWalk
