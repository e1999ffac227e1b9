import GridWalk.Proofs.Search.Loop

/-!
# Which node is taken out

The open list of a search holds the nodes that wait in the order of their discovery, in every state
that the main loop comes through, also in the middle of a turn. Of these nodes the one with the
least estimate is taken out, and of several such nodes the latest. There is just one node like that,
so the choice rests on nothing else, and the others stay in their order.
-/

namespace GridWalk
namespace Exploration

variable {size : GridSize} {probe : Probe} {start goal cell : Cell} {search taken : Exploration}
  {number other expanded : Nat} {node otherNode : SearchNode}

/-- The nodes that wait, the earliest discovered first. -/
def openList (search : Exploration) : List Nat :=
  search.frontier.reverse

@[simp]
theorem mem_openList : number ∈ search.openList ↔ number ∈ search.frontier :=
  List.mem_reverse

/-! ## The states of the loop -/

/-- The neighbours of a cell, in the order in which a turn of the main loop looks at them. -/
def neighbours (size : GridSize) (cell : Cell) : List Cell :=
  Direction.all.filterMap (·.step size cell)

/-- The states that the main loop comes through. -/
inductive Passes (size : GridSize) (probe : Probe) (start goal : Cell) : Exploration → Prop
  /-- The state at the head of the loop. -/
  | head {expanded : Nat} {search : Exploration}
      (state : Loop size probe start goal expanded search) : Passes size probe start goal search
  /-- A node was taken out. -/
  | taken {expanded number : Nat} {search taken : Exploration}
      (state : Loop size probe start goal expanded search)
      (took : search.takeBest = some (number, taken)) : Passes size probe start goal taken
  /-- The node is not on the goal, and the first of its neighbours were looked at. -/
  | looking {expanded number : Nat} {node : SearchNode} {search taken : Exploration}
      {looked rest : List Cell} (state : Loop size probe start goal expanded search)
      (took : search.takeBest = some (number, taken))
      (known : taken.nodes[number]? = some node) (misses : node.cell ≠ goal)
      (order : looked ++ rest = neighbours size node.cell) :
      Passes size probe start goal (looked.foldl (visit probe goal number) taken)

theorem Estimated.of_takeBest (estimated : search.Estimated goal)
    (took : search.takeBest = some (number, taken)) : taken.Estimated goal := by
  obtain ⟨-, rfl⟩ := eq_of_takeBest took
  exact estimated

/-- In every state of the loop the nodes form a tree, and their estimates are as they should be. -/
theorem Passes.tree_and_estimated (passes : Passes size probe start goal search) :
    search.Tree size start ∧ search.Estimated goal := by
  cases passes with
  | head state => exact ⟨state.tree, state.estimated⟩
  | taken state took =>
      obtain ⟨node, known⟩ := state.exists_node took
      exact ⟨(state.expanding took known).tree, state.estimated.of_takeBest took⟩
  | @looking expanded number node search taken looked rest state took known misses order =>
      have stepped : ∀ cell ∈ looked, ∃ direction : Direction,
          direction.step size node.cell = some cell := by
        intro cell member
        have neighbour : cell ∈ neighbours size node.cell :=
          order ▸ List.mem_append_left rest member
        exact Direction.mem_filterMap_step.mp neighbour
      exact ⟨((state.expanding took known).foldl_visit goal stepped).1.tree,
        (state.estimated.of_takeBest took).foldl_visit number looked⟩

/-! ## The best node -/

/-- The node with the least estimate among those that wait, and the latest of several such nodes. -/
structure IsBest (search : Exploration) (number : Nat) (node : SearchNode) : Prop where
  waits : number ∈ search.openList
  known : search.nodes[number]? = some node
  /-- No estimate is less. -/
  least : ∀ other ∈ search.openList, ∀ otherNode ∈ search.nodes[other]?,
    node.estimate.units ≤ otherNode.estimate.units
  /-- A node that was discovered later has a greater estimate. -/
  latest : ∀ other ∈ search.openList, number < other → ∀ otherNode ∈ search.nodes[other]?,
    node.estimate.units < otherNode.estimate.units

theorem IsBest.unique (best : search.IsBest number node) (second : search.IsBest other otherNode) :
    number = other := by
  rcases Nat.lt_trichotomy number other with less | same | greater
  · have := best.latest other second.waits less otherNode second.known
    have := second.least number best.waits node best.known
    omega
  · exact same
  · have := second.latest number best.waits greater node best.known
    have := best.least other second.waits otherNode second.known
    omega

/-- Among numbers that fall, one before the best has a greater estimate. -/
theorem estimate_best_lt (nodes : Array SearchNode) (number : Nat) {others : List Nat}
    (falling : (number :: others).Pairwise (· > ·)) {other : Nat}
    (member : other ∈ number :: others)
    (later : best nodes number (estimate nodes number) others < other) :
    (estimate nodes (best nodes number (estimate nodes number) others)).units <
      (estimate nodes other).units := by
  induction others generalizing number other with
  | nil =>
      rw [List.mem_singleton.mp member] at later
      exact absurd later (Nat.lt_irrefl number)
  | cons candidate others induction =>
      obtain ⟨below, falling_others⟩ := List.pairwise_cons.mp falling
      rw [best] at later ⊢
      split at later
      · -- The candidate is passed over, so it is the best of what is left that has to stand ahead.
        rename_i kept
        rw [if_pos kept]
        have falling_left : (number :: others).Pairwise (· > ·) :=
          falling.sublist (List.Sublist.cons_cons number (List.sublist_cons_self candidate others))
        rcases List.mem_cons.mp member with rfl | member
        · exact induction _ falling_left List.mem_cons_self later
        rcases List.mem_cons.mp member with rfl | member
        · have best_lt : best nodes number (estimate nodes number) others < number :=
            later.trans (below other List.mem_cons_self)
          exact (induction _ falling_left List.mem_cons_self best_lt).trans_le kept
        · exact induction _ falling_left (List.mem_cons_of_mem number member) later
      · rename_i improved
        rw [if_neg improved]
        rcases List.mem_cons.mp member with rfl | member
        · have best_le := estimate_best_le nodes candidate others List.mem_cons_self
          exact Nat.lt_of_le_of_lt best_le (Length.not_le.mp improved)
        · exact induction candidate falling_others member later

/-- A node with the least estimate is taken out, and of several such nodes the latest. -/
theorem Tree.isBest_of_takeBest (tree : search.Tree size start)
    (took : search.takeBest = some (number, taken)) (known : search.nodes[number]? = some node) :
    search.IsBest number node := by
  have waits := (eq_of_takeBest took).1
  refine ⟨mem_openList.mpr waits, known, ?_, ?_⟩
  · intro other other_waits otherNode otherKnown
    rw [← estimate_of_known known, ← estimate_of_known otherKnown]
    exact estimate_le_of_takeBest took (mem_openList.mp other_waits)
  · intro other other_waits later otherNode otherKnown
    rw [← estimate_of_known known, ← estimate_of_known otherKnown]
    have falling := tree.sorted
    rw [mem_openList] at other_waits
    unfold takeBest at took
    split at took
    · cases took
    · rename_i first rest waiting
      cases took
      rw [waiting] at falling other_waits
      exact estimate_best_lt search.nodes first falling other_waits later

/-- Taking a node out of the frontier cuts it out of the open list. -/
theorem exists_openList_eq_of_takeBest (took : search.takeBest = some (number, taken)) :
    ∃ earlier later, search.openList = earlier ++ number :: later ∧
      taken = { search with frontier := (earlier ++ later).reverse } := by
  obtain ⟨waits, rfl⟩ := eq_of_takeBest took
  obtain ⟨later, earlier, frontier_eq, number_notMem⟩ := List.eq_append_cons_of_mem waits
  refine ⟨earlier.reverse, later.reverse, ?_, ?_⟩
  · rw [openList, frontier_eq, List.reverse_append, List.reverse_cons, List.append_assoc,
      List.singleton_append]
  · rw [frontier_eq, List.erase_append_right _ number_notMem, List.erase_cons_head,
      List.reverse_append, List.reverse_reverse, List.reverse_reverse]

/-- In every state that the main loop comes through, the open list follows the order of discovery.
If a node waits, the best one is taken out, it alone leaves the open list, and nothing else changes.
-/
theorem takeBest_selects (passes : Passes size probe start goal search) :
    search.openList.Pairwise (· < ·) ∧
    (∀ number ∈ search.openList, ∃ node, search.nodes[number]? = some node ∧
      node.estimate = Length.ofNat node.steps + node.cell.euclidean goal) ∧
    (search.openList = [] → search.takeBest = none) ∧
    (search.openList ≠ [] → ∃ earlier number later node,
      search.openList = earlier ++ number :: later ∧ search.IsBest number node ∧
      (∀ other otherNode, search.IsBest other otherNode → other = number) ∧
      ∃ taken, search.takeBest = some (number, taken) ∧ taken.openList = earlier ++ later ∧
        taken.nodes = search.nodes ∧ taken.seen = search.seen ∧ taken.asked = search.asked) := by
  obtain ⟨tree, estimated⟩ := passes.tree_and_estimated
  have known_of_waits : ∀ number ∈ search.openList,
      ∃ node, search.nodes[number]? = some node := fun number waits =>
    ⟨_, Array.getElem?_eq_getElem (tree.bounded number (mem_openList.mp waits))⟩
  refine ⟨List.pairwise_reverse.mpr tree.sorted, ?_, ?_, ?_⟩
  · intro number waits
    obtain ⟨node, known⟩ := known_of_waits number waits
    exact ⟨node, known, estimated number node known⟩
  · intro idle
    exact takeBest_eq_none_iff.mpr (List.reverse_eq_nil_iff.mp idle)
  · intro busy
    cases took : search.takeBest with
    | none => exact absurd (List.reverse_eq_nil_iff.mpr (takeBest_eq_none_iff.mp took)) busy
    | some best =>
        obtain ⟨number, taken⟩ := best
        obtain ⟨earlier, later, openList_eq, rfl⟩ := exists_openList_eq_of_takeBest took
        have waits : number ∈ search.openList := mem_openList.mpr (eq_of_takeBest took).1
        obtain ⟨node, known⟩ := known_of_waits number waits
        have is_best := tree.isBest_of_takeBest took known
        refine ⟨earlier, number, later, node, openList_eq, is_best, ?_, _, rfl, ?_, rfl, rfl, rfl⟩
        · intro other otherNode second
          exact second.unique is_best
        · exact List.reverse_reverse _

/-- In the middle of a turn, with the west still to be looked at, the neighbours in the east and in
the south are equally good, and the south is the later one. -/
theorem takeBest_selects_south :
    ∃ search node taken, Passes ⟨3, 3⟩ (Probe.ofPredicate fun _ => false) ⟨1, 1⟩ ⟨2, 2⟩ search ∧
      search.openList = [1, 2, 3] ∧ search.IsBest 3 node ∧ node.cell = ⟨1, 2⟩ ∧
      search.takeBest = some (3, taken) ∧ taken.openList = [1, 2] := by
  let first := empty.insert ⟨2, 2⟩ ⟨1, 1⟩ none
  let looked : List Cell := [⟨1, 0⟩, ⟨2, 1⟩, ⟨1, 2⟩]
  let search := looked.foldl (visit (Probe.ofPredicate fun _ => false) ⟨2, 2⟩ 0)
    { first with frontier := [] }
  have order : looked ++ [⟨0, 1⟩] = neighbours ⟨3, 3⟩ ⟨1, 1⟩ := by decide
  have passes : Passes ⟨3, 3⟩ (Probe.ofPredicate fun _ => false) ⟨1, 1⟩ ⟨2, 2⟩ search :=
    .looking .first rfl (getElem?_first.mpr ⟨rfl, rfl⟩) (by decide) order
  have openList_eq : search.openList = [1, 2, 3] := by decide +kernel
  obtain ⟨-, -, -, selects⟩ := takeBest_selects passes
  obtain ⟨earlier, number, later, node, -, best, -, taken, took, -⟩ :=
    selects (openList_eq ▸ List.cons_ne_nil _ _)
  have number_eq : search.takeBest.map Prod.fst = some 3 := by decide +kernel
  have left_eq : search.takeBest.map (·.2.openList) = some [1, 2] := by decide +kernel
  rw [took, Option.map_some, Option.some.injEq] at number_eq left_eq
  subst number_eq
  have cell_eq : (search.nodes[3]?).map SearchNode.cell = some ⟨1, 2⟩ := by decide +kernel
  rw [best.known, Option.map_some, Option.some.injEq] at cell_eq
  exact ⟨search, node, taken, passes, openList_eq, best, cell_eq, took, left_eq⟩

end Exploration
end GridWalk
