import GridWalk.Proofs.Search.Expansion
import GridWalk.Search.PathFinder

/-!
# The main loop of a search

The states at the head of the main loop, as the loop reaches them one after another, and the ways in
which it ends. Each statement about all states is an induction along the loop: the nodes form a
tree, every node was either taken out or waits, and what was taken out has only seen neighbours.
-/

namespace GridWalk
namespace Exploration

variable {size : GridSize} {probe : Probe} {start goal : Cell} {search later : Exploration}
  {number expanded : Nat} {node : SearchNode}

/-- The states at the head of the main loop, with the number of nodes taken out before. -/
inductive Loop (size : GridSize) (probe : Probe) (start goal : Cell) : Nat → Exploration → Prop
  /-- The search begins with the start alone. -/
  | first : Loop size probe start goal 0 (empty.insert goal start none)
  /-- The best node is taken out and, as it is not on the goal, expanded. -/
  | next {expanded number : Nat} {node : SearchNode} {search taken : Exploration}
      (state : Loop size probe start goal expanded search)
      (took : search.takeBest = some (number, taken))
      (known : taken.nodes[number]? = some node) (misses : node.cell ≠ goal) :
      Loop size probe start goal (expanded + 1)
        (taken.expand size probe goal number node.cell)

/-! ## Invariants -/

theorem expanding_of_takeBest (tree : search.Tree size start) (ledger : search.Ledger probe start)
    (took : search.takeBest = some (number, later)) (known : later.nodes[number]? = some node) :
    Expanding size probe start number node later := by
  obtain ⟨waits, rfl⟩ := eq_of_takeBest took
  have remaining : (search.frontier.erase number).Sublist search.frontier := List.erase_sublist
  have nodup : search.frontier.Nodup := tree.sorted.imp Nat.ne_of_gt
  refine ⟨⟨tree.root, ?_, tree.distinct, ?_, tree.sorted.sublist remaining⟩,
    ⟨ledger.seen_iff, ledger.start_unasked, ledger.nodup, ledger.node_iff⟩, known, ?_⟩
  · intro other otherNode otherKnown positive
    obtain ⟨parent, parentNode, parent_eq, parent_lt, parent_known, taken, rest⟩ :=
      tree.child otherKnown positive
    exact ⟨parent, parentNode, parent_eq, parent_lt, parent_known,
      fun waits => taken (remaining.subset waits), rest⟩
  · intro other waits
    exact tree.bounded other (remaining.subset waits)
  · exact nodup.not_mem_erase

namespace Loop

theorem tree_and_ledger (state : Loop size probe start goal expanded search) :
    search.Tree size start ∧ search.Ledger probe start := by
  induction state with
  | first => exact ⟨tree_first, ledger_first⟩
  | next _ took known _ induction =>
      obtain ⟨last, -, -⟩ :=
        (expanding_of_takeBest induction.1 induction.2 took known).expand goal
      exact ⟨last.tree, last.ledger⟩

theorem tree (state : Loop size probe start goal expanded search) : search.Tree size start :=
  state.tree_and_ledger.1

theorem ledger (state : Loop size probe start goal expanded search) :
    search.Ledger probe start :=
  state.tree_and_ledger.2

theorem expanding (state : Loop size probe start goal expanded search)
    (took : search.takeBest = some (number, later)) (known : later.nodes[number]? = some node) :
    Expanding size probe start number node later :=
  expanding_of_takeBest state.tree state.ledger took known

theorem estimated (state : Loop size probe start goal expanded search) :
    search.Estimated goal := by
  induction state with
  | first => exact estimated_first
  | @next expanded number node search taken state took known misses induction =>
      have estimated : taken.Estimated goal := by
        obtain ⟨-, rfl⟩ := eq_of_takeBest took
        exact induction
      exact estimated.expand number node.cell

/-- The node that is taken out exists. -/
theorem exists_node (state : Loop size probe start goal expanded search)
    (took : search.takeBest = some (number, later)) :
    ∃ node, later.nodes[number]? = some node := by
  obtain ⟨waits, rfl⟩ := eq_of_takeBest took
  exact ⟨_, Array.getElem?_eq_getElem (state.tree.bounded number waits)⟩

/-- Every node either was taken out or waits. -/
theorem count (state : Loop size probe start goal expanded search) :
    expanded + search.frontier.length = search.nodes.size := by
  induction state with
  | first => simp [insert, empty]
  | next state took known _ induction =>
      obtain ⟨-, extension, -⟩ := (state.expanding took known).expand goal
      have counted := extension.count
      obtain ⟨waits, rfl⟩ := eq_of_takeBest took
      have erased := List.length_erase_of_mem waits
      have positive := List.length_pos_of_mem waits
      simp only at counted
      omega

/-- The nodes that were taken out are the same before and after the neighbours are looked at. -/
theorem taken_of_expand (state : Loop size probe start goal expanded search)
    (took : search.takeBest = some (number, later)) (known : later.nodes[number]? = some node)
    {other : Nat} {otherNode : SearchNode}
    (otherKnown : (later.expand size probe goal number node.cell).nodes[other]? = some otherNode)
    (taken : other ∉ (later.expand size probe goal number node.cell).frontier) :
    search.nodes[other]? = some otherNode ∧ (other ∉ search.frontier ∨ other = number) := by
  obtain ⟨-, extension, -⟩ := (state.expanding took known).expand goal
  have other_lt := (Array.getElem?_eq_some_iff.mp otherKnown).1
  rw [extension.waits_iff other_lt, not_or, Nat.not_le] at taken
  have known_before := Array.getElem?_eq_getElem taken.2
  have same := (extension.nodes known_before).symm.trans otherKnown
  rw [same] at known_before
  obtain ⟨-, rfl⟩ := eq_of_takeBest took
  refine ⟨known_before, ?_⟩
  by_cases other_eq : other = number
  · exact Or.inr other_eq
  · exact Or.inl fun waits => taken.1 ((List.mem_erase_of_ne other_eq).mpr waits)

/-- No node lies more steps from the start than nodes were taken out. -/
theorem steps_le (state : Loop size probe start goal expanded search)
    (known : search.nodes[number]? = some node) : node.steps ≤ expanded := by
  induction state generalizing number node with
  | first =>
      obtain ⟨-, rfl⟩ := getElem?_first.mp known
      exact Nat.le_refl 0
  | @next expanded taken takenNode search later state took takenKnown misses induction =>
      have after := (state.next took takenKnown misses).tree
      rcases Nat.eq_zero_or_pos number with rfl | positive
      · obtain ⟨estimate, rfl⟩ := after.eq_root known
        exact Nat.zero_le _
      · obtain ⟨parent, parentNode, -, -, parentKnown, parentTaken, steps_eq, -⟩ :=
          after.child known positive.ne'
        have before := (state.taken_of_expand took takenKnown parentKnown parentTaken).1
        have := induction before
        omega

/-- What was taken out misses the goal and has only seen neighbours. -/
theorem closed (state : Loop size probe start goal expanded search)
    (known : search.nodes[number]? = some node) (taken : number ∉ search.frontier) :
    node.cell ≠ goal ∧ ∀ (direction : Direction) (next : Cell),
      direction.step size node.cell = some next → search.isSeen next = true := by
  induction state generalizing number node with
  | first =>
      obtain ⟨rfl, -⟩ := getElem?_first.mp known
      exact (taken (by simp [insert, empty])).elim
  | @next expanded other otherNode search later state took otherKnown misses induction =>
      obtain ⟨before, taken_before | rfl⟩ :=
        state.taken_of_expand took otherKnown known taken
      · obtain ⟨-, extension, -⟩ := (state.expanding took otherKnown).expand goal
        obtain ⟨node_misses, seen⟩ := induction before taken_before
        obtain ⟨-, rfl⟩ := eq_of_takeBest took
        exact ⟨node_misses, fun direction next stepped =>
          extension.seen (seen direction next stepped)⟩
      · obtain ⟨-, -, seen⟩ := (state.expanding took otherKnown).expand goal
        obtain ⟨-, rfl⟩ := eq_of_takeBest took
        obtain rfl := Option.some.inj (otherKnown.symm.trans before)
        exact ⟨misses, seen⟩

end Loop

/-! ## The end of the loop -/

/-- How the main loop ends when it may take out `limit` nodes. -/
inductive Ends (size : GridSize) (probe : Probe) (start goal : Cell) (limit : Nat) : Finish → Prop
  /-- The node that is taken out is on the goal. -/
  | reached {expanded number : Nat} {node : SearchNode} {search taken : Exploration}
      (state : Loop size probe start goal expanded search)
      (took : search.takeBest = some (number, taken))
      (known : taken.nodes[number]? = some node) (hits : node.cell = goal)
      (within : expanded < limit) :
      Ends size probe start goal limit ⟨taken, expanded + 1, some number⟩
  /-- No node waits any more. -/
  | exhausted {expanded : Nat} {search : Exploration}
      (state : Loop size probe start goal expanded search) (idle : search.frontier = [])
      (within : expanded ≤ limit) :
      Ends size probe start goal limit ⟨search, expanded, none⟩
  /-- The budget is spent. -/
  | spent {search : Exploration} (state : Loop size probe start goal limit search) :
      Ends size probe start goal limit ⟨search, limit, none⟩

theorem Loop.ends (state : Loop size probe start goal expanded search) (budget : Nat) :
    Ends size probe start goal (expanded + budget)
      (search.run size probe goal budget expanded) := by
  induction budget generalizing expanded search with
  | zero => exact .spent state
  | succ budget induction =>
      rw [run]
      split
      · rename_i nothing
        exact .exhausted state (takeBest_eq_none_iff.mp nothing) (by omega)
      · rename_i number taken took
        obtain ⟨node, known⟩ := state.exists_node took
        simp only [known]
        split
        · rename_i hits
          exact .reached state took known hits (by omega)
        · rename_i misses
          have later := induction (state.next took known misses)
          rwa [Nat.add_right_comm] at later

end Exploration

theorem SearchConfig.explore_ends (config : SearchConfig) (size : GridSize) (start goal : Cell)
    (probe : Probe) :
    Exploration.Ends size probe start goal config.iterationCap.toNat
      (config.explore size start goal probe) := by
  simpa [explore] using Exploration.Loop.first.ends config.iterationCap.toNat

end GridWalk
