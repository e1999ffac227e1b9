import GridWalk.Proofs.Search.Trail
import Mathlib.Data.Set.Card

/-!
# What a search covers

A search over a plain predicate makes nodes of reachable cells only, and when no node waits it has
made nodes of all of them. The number of reachable cells is then the number of expansions, so the
answer of a search that does not meet its goal is a matter of that number and the budget.
-/

namespace GridWalk
namespace Exploration

variable {size : GridSize} {isBlocked : Cell → Bool} {start goal : Cell} {search : Exploration}
  {number expanded : Nat} {node : SearchNode}

/-- The cells that became nodes. -/
def nodeCells (search : Exploration) : Set Cell :=
  {cell | ∃ (number : Nat) (node : SearchNode),
    search.nodes[number]? = some node ∧ node.cell = cell}

/-- There are as many cells that became nodes as there are nodes. -/
theorem Tree.ncard_nodeCells (tree : search.Tree size start) :
    search.nodeCells.ncard = search.nodes.size := by
  let cellAt (number : Fin search.nodes.size) : Cell := search.nodes[number].cell
  have cellAt_injective : Function.Injective cellAt := by
    intro number other same
    exact Fin.ext (tree.distinct (Array.getElem?_eq_getElem number.isLt)
      (Array.getElem?_eq_getElem other.isLt) same)
  have range_eq : search.nodeCells = Set.range cellAt := by
    ext cell
    constructor
    · rintro ⟨number, node, known, rfl⟩
      obtain ⟨number_lt, rfl⟩ := Array.getElem?_eq_some_iff.mp known
      exact ⟨⟨number, number_lt⟩, rfl⟩
    · rintro ⟨number, rfl⟩
      exact ⟨number, _, Array.getElem?_eq_getElem number.isLt, rfl⟩
  rw [range_eq, Set.ncard_range_of_injective cellAt_injective, Nat.card_fin]

namespace Loop

/-- Only reachable cells become nodes. -/
theorem nodeCells_subset
    (state : Loop size (Probe.ofPredicate isBlocked) start goal expanded search) :
    search.nodeCells ⊆ reachableCells size isBlocked start := by
  rintro cell ⟨number, node, known, rfl⟩
  exact (state.isRoute known).mem_reachableCells

theorem size_le_ncard
    (state : Loop size (Probe.ofPredicate isBlocked) start goal expanded search) :
    search.nodes.size ≤ (reachableCells size isBlocked start).ncard := by
  rw [← state.tree.ncard_nodeCells]
  exact Set.ncard_le_ncard state.nodeCells_subset (Set.toFinite _)

/-- Behind a node that was taken out all open neighbours became nodes. -/
theorem next_mem_nodeCells {next : Cell}
    (state : Loop size (Probe.ofPredicate isBlocked) start goal expanded search)
    (known : search.nodes[number]? = some node) (taken : number ∉ search.frontier)
    (step : OpenStep size isBlocked node.cell next) : next ∈ search.nodeCells := by
  obtain ⟨⟨direction, stepped⟩, vacant⟩ := step
  apply state.ledger.node_iff.mpr
  rcases state.ledger.seen_iff.mp ((state.closed known taken).2 direction next stepped) with
    on_start | asked
  · exact Or.inl on_start
  · right
    rw [Probe.answer?_ofPredicate, if_pos asked, vacant]

/-- When no node waits, exactly the reachable cells became nodes. -/
theorem nodeCells_eq
    (state : Loop size (Probe.ofPredicate isBlocked) start goal expanded search)
    (idle : search.frontier = []) :
    search.nodeCells = reachableCells size isBlocked start := by
  refine state.nodeCells_subset.antisymm ?_
  intro cell reached
  induction reached with
  | refl =>
      obtain ⟨estimate, first⟩ := state.tree.root
      exact ⟨0, _, first, rfl⟩
  | tail _ step induction =>
      obtain ⟨number, node, known, rfl⟩ := induction
      exact state.next_mem_nodeCells known (by simp [idle]) step

/-- When no node waits, as many nodes were taken out as cells can be reached. -/
theorem expanded_eq_ncard
    (state : Loop size (Probe.ofPredicate isBlocked) start goal expanded search)
    (idle : search.frontier = []) : expanded = (reachableCells size isBlocked start).ncard := by
  have counted := state.count
  rw [idle, List.length_nil, Nat.add_zero, ← state.tree.ncard_nodeCells,
    state.nodeCells_eq idle] at counted
  exact counted

/-- While a node waits, fewer nodes were taken out than cells can be reached. -/
theorem expanded_lt_ncard
    (state : Loop size (Probe.ofPredicate isBlocked) start goal expanded search)
    (busy : search.frontier ≠ []) : expanded < (reachableCells size isBlocked start).ncard := by
  have counted := state.count
  have size_le := state.size_le_ncard
  have positive := List.length_pos_iff.mpr busy
  omega

/-- When no node waits and the goal was not met, it cannot be reached. -/
theorem goal_notMem (state : Loop size (Probe.ofPredicate isBlocked) start goal expanded search)
    (idle : search.frontier = []) : goal ∉ reachableCells size isBlocked start := by
  rw [← state.nodeCells_eq idle]
  rintro ⟨number, node, known, hits⟩
  exact (state.closed known (by simp [idle])).1 hits

end Loop

end Exploration

namespace SearchConfig

open Exploration

variable {config : SearchConfig} {size : GridSize} {isBlocked : Cell → Bool} {start goal : Cell}

/-- The three answers of a search within the grid: a route to a goal that can be reached, all cells
that can be reached without the goal, or the budget when it is less than the number of those. -/
theorem findPath_cases (config : SearchConfig) (isBlocked : Cell → Bool)
    (start_inside : size.contains start = true) (goal_inside : size.contains goal = true) :
    let reachable := reachableCells size isBlocked start
    let result := (config.findPath size start goal (Probe.ofPredicate isBlocked)).result
    goal ∈ reachable ∧ (∃ route, result = .ok route) ∨
    goal ∉ reachable ∧ reachable.ncard ≤ config.iterationCap.toNat ∧
      result = .error (.exhausted reachable.ncard) ∨
    config.iterationCap.toNat < reachable.ncard ∧
      result = .error (.iterationCap config.iterationCap) := by
  intro reachable result
  have result_eq : result = _ :=
    findPath_result config start_inside goal_inside (Probe.ofPredicate isBlocked)
  have ending := config.explore_ends size start goal (Probe.ofPredicate isBlocked)
  generalize config.explore size start goal (Probe.ofPredicate isBlocked) = finish at *
  cases ending with
  | reached state took known hits within =>
      obtain ⟨-, rfl⟩ := eq_of_takeBest took
      refine Or.inl ⟨?_, _, result_eq⟩
      rw [← hits]
      exact state.nodeCells_subset ⟨_, _, known, rfl⟩
  | exhausted state idle within =>
      have counted := state.expanded_eq_ncard idle
      refine Or.inr (Or.inl ⟨state.goal_notMem idle, counted ▸ within, ?_⟩)
      rw [result_eq, ← counted]
      simp [conclude, idle]
  | @spent search state =>
      by_cases idle : search.frontier = []
      · have counted := state.expanded_eq_ncard idle
        refine Or.inr (Or.inl ⟨state.goal_notMem idle, counted.ge, ?_⟩)
        rw [result_eq, ← counted]
        simp [conclude, idle]
      · refine Or.inr (Or.inr ⟨state.expanded_lt_ncard idle, ?_⟩)
        rw [result_eq]
        simp [conclude, idle]

/-- A search within the grid fails for want of a route exactly when there is none, after as many
expansions as cells can be reached, and a budget of that many is enough for either answer. -/
theorem findPath_decides_reachability (config : SearchConfig) (size : GridSize)
    (start goal : Cell) (isBlocked : Cell → Bool) (start_inside : size.contains start = true)
    (goal_inside : size.contains goal = true) :
    let reachable := reachableCells size isBlocked start
    let result := (config.findPath size start goal (Probe.ofPredicate isBlocked)).result
    (goal ∉ reachable →
      (reachable.ncard ≤ config.iterationCap.toNat →
        result = .error (.exhausted reachable.ncard)) ∧
      (config.iterationCap.toNat < reachable.ncard →
        result = .error (.iterationCap config.iterationCap))) ∧
    (goal ∈ reachable →
      (∀ expanded, result ≠ .error (.exhausted expanded)) ∧
      (reachable.ncard ≤ config.iterationCap.toNat → ∃ route, result = .ok route)) := by
  intro reachable result
  obtain ⟨reached, route, found⟩ | ⟨missed, enough, failed⟩ | ⟨short, failed⟩ :=
    findPath_cases config isBlocked start_inside goal_inside
  · refine ⟨fun missed => (missed reached).elim, fun _ => ⟨?_, fun _ => ⟨route, found⟩⟩⟩
    intro expanded failed
    cases found.symm.trans failed
  · refine ⟨fun _ => ⟨fun _ => failed, fun short => ?_⟩, fun reached => (missed reached).elim⟩
    exact absurd enough (Nat.not_le.mpr short)
  · refine ⟨fun _ => ⟨fun enough => ?_, fun _ => failed⟩, fun _ => ⟨?_, fun enough => ?_⟩⟩
    · exact absurd enough (Nat.not_le.mpr short)
    · intro expanded exhausted
      cases failed.symm.trans exhausted
    · exact absurd enough (Nat.not_le.mpr short)

/-- A search that expands two cells shows that nothing leads around a wall across the grid. -/
theorem notMem_reachableCells_across_wall :
    let isBlocked (cell : Cell) := cell.column = 1
    (⟨3, 2⟩ : GridSize).contains ⟨0, 0⟩ = true ∧ (⟨3, 2⟩ : GridSize).contains ⟨2, 1⟩ = true ∧
      ⟨2, 1⟩ ∉ reachableCells ⟨3, 2⟩ isBlocked ⟨0, 0⟩ := by
  intro isBlocked
  have exhausted : (findPath {} ⟨3, 2⟩ ⟨0, 0⟩ ⟨2, 1⟩ (Probe.ofPredicate isBlocked)).result =
      .error (.exhausted 2) := by decide +kernel
  refine ⟨by decide, by decide, fun reached => ?_⟩
  have decided := findPath_decides_reachability {} ⟨3, 2⟩ ⟨0, 0⟩ ⟨2, 1⟩ isBlocked
    (by decide) (by decide)
  exact (decided.2 reached).1 2 exhausted

end SearchConfig

end GridWalk
