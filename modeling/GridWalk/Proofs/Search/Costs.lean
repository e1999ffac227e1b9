import GridWalk.Proofs.Search.Selection
import GridWalk.Proofs.Search.Trail

/-!
# What the nodes of a search cost

The main loop of a search, one step after another: a node is taken out and counted, its neighbours
are looked at, and the loop is back at its head. A node is found from one with a smaller number that
was taken out before, so its steps are counted exactly and never outnumber the nodes taken out. As
those keep to the budget, which is a word of 32 bits, so does every count; and gathering a route
along the parents takes as many turns as the node has steps.
-/

namespace GridWalk
namespace Exploration

variable {size : GridSize} {probe : Probe} {start goal cell : Cell} {search taken : Exploration}
  {number limit : Nat} {node : SearchNode} {expanded : List Nat} {rest : List Cell}

/-! ## The steps of the main loop -/

/-- Where the main loop stands. -/
inductive Stage where
  /-- At its head. -/
  | head
  /-- A node was taken out and counted. -/
  | taken (number : Nat)
  /-- The node is not on the goal, and these of its neighbours are still to be looked at. -/
  | looking (number : Nat) (rest : List Cell)

namespace Stage

/-- The node that was taken out last, while the loop is busy with it. -/
def current? : Stage → Option Nat
  | .head => none
  | .taken number => some number
  | .looking number _ => some number

/-- The neighbours that are still to be looked at. -/
def pending : Stage → List Cell
  | .head => []
  | .taken _ => []
  | .looking _ rest => rest

end Stage

/-- Where the main loop gets to when it may take out `limit` nodes, with the nodes that it has taken
out, the latest first, and the state of the search there. -/
inductive Arrives (size : GridSize) (probe : Probe) (start goal : Cell) (limit : Nat) :
    Stage → List Nat → Exploration → Prop
  /-- The search begins with the start alone. -/
  | first : Arrives size probe start goal limit .head [] (empty.insert goal start none)
  /-- While the budget lasts, the best node is taken out and counted. -/
  | take {number : Nat} {expanded : List Nat} {search taken : Exploration}
      (arrival : Arrives size probe start goal limit .head expanded search)
      (within : expanded.length < limit) (took : search.takeBest = some (number, taken)) :
      Arrives size probe start goal limit (.taken number) (number :: expanded) taken
  /-- A node that is not on the goal is expanded. -/
  | turn {number : Nat} {node : SearchNode} {expanded : List Nat} {search : Exploration}
      (arrival : Arrives size probe start goal limit (.taken number) expanded search)
      (known : search.nodes[number]? = some node) (misses : node.cell ≠ goal) :
      Arrives size probe start goal limit (.looking number (neighbours size node.cell)) expanded
        search
  /-- The next neighbour is looked at. -/
  | look {number : Nat} {cell : Cell} {rest : List Cell} {expanded : List Nat}
      {search : Exploration}
      (arrival : Arrives size probe start goal limit (.looking number (cell :: rest)) expanded
        search) :
      Arrives size probe start goal limit (.looking number rest) expanded
        (visit probe goal number search cell)
  /-- With no neighbour left, the loop is back at its head. -/
  | back {number : Nat} {expanded : List Nat} {search : Exploration}
      (arrival : Arrives size probe start goal limit (.looking number []) expanded search) :
      Arrives size probe start goal limit .head expanded search

/-! ## What was taken out, and at what cost -/

/-- Looking at a neighbour leaves the nodes that were taken out as they are. -/
theorem Extends.idle_iff {later : Exploration} (extension : later.Extends search) :
    number < later.nodes.size ∧ number ∉ later.frontier ↔
      number < search.nodes.size ∧ number ∉ search.frontier := by
  have size_le := extension.size_le
  constructor
  · rintro ⟨later_lt, idle⟩
    rw [extension.waits_iff later_lt, not_or] at idle
    exact ⟨Nat.not_le.mp idle.2, idle.1⟩
  · rintro ⟨number_lt, idle⟩
    have later_lt := number_lt.trans_le size_le
    rw [extension.waits_iff later_lt, not_or]
    exact ⟨later_lt, idle, Nat.not_le.mpr number_lt⟩

/-- A node that comes of looking at a neighbour costs one step more than the expanded one. -/
theorem known_or_child_of_visit {other : Nat} {otherNode : SearchNode}
    (known : search.nodes[number]? = some node)
    (otherKnown : (visit probe goal number search cell).nodes[other]? = some otherNode) :
    search.nodes[other]? = some otherNode ∨ otherNode.steps = node.steps + 1 := by
  revert otherKnown
  obtain ⟨-, same⟩ | ⟨-, -, same⟩ | ⟨-, -, same⟩ := visit_cases known <;> rw [same]
  · exact Or.inl
  · exact Or.inl
  · intro otherKnown
    rcases getElem?_push_eq_some.mp otherKnown with old | ⟨-, rfl⟩
    · exact Or.inl old
    · exact Or.inr rfl

/-- What holds wherever the main loop stands. -/
structure Account (size : GridSize) (probe : Probe) (start : Cell) (stage : Stage)
    (expanded : List Nat) (search : Exploration) : Prop where
  /-- The nodes form a tree. -/
  tree : search.Tree size start
  /-- The questions are accounted for. -/
  ledger : search.Ledger probe start
  /-- Exactly the nodes that do not wait were taken out. -/
  expanded_iff : ∀ {number : Nat},
    number ∈ expanded ↔ number < search.nodes.size ∧ number ∉ search.frontier
  /-- No node has more steps than nodes were taken out. -/
  steps_le : ∀ {number : Nat} {node : SearchNode},
    search.nodes[number]? = some node → node.steps ≤ expanded.length
  /-- The node that the loop is busy with was counted itself, so it has fewer steps. -/
  current : ∀ number ∈ stage.current?, ∃ node, search.nodes[number]? = some node ∧
    number ∉ search.frontier ∧ node.steps < expanded.length ∧
    ∀ cell ∈ stage.pending, ∃ direction : Direction, direction.step size node.cell = some cell

namespace Account

theorem first : Account size probe start .head [] (empty.insert goal start none) where
  tree := tree_first
  ledger := ledger_first
  expanded_iff {number} := by
    simp [insert, empty]
  steps_le known := by
    obtain ⟨-, rfl⟩ := getElem?_first.mp known
    exact Nat.le_refl 0
  current number busy := by cases busy

theorem take (account : Account size probe start .head expanded search)
    (took : search.takeBest = some (number, taken)) :
    Account size probe start (.taken number) (number :: expanded) taken := by
  obtain ⟨waits, rfl⟩ := eq_of_takeBest took
  have known := Array.getElem?_eq_getElem (account.tree.bounded number waits)
  have expanding := expanding_of_takeBest account.tree account.ledger took known
  refine ⟨expanding.tree, expanding.ledger, ?_, ?_, ?_⟩
  · intro other
    rw [List.mem_cons, account.expanded_iff]
    -- The node that is taken out leaves the frontier, and every other stays where it is.
    by_cases same : other = number
    · subst same
      exact iff_of_true (Or.inl rfl) ⟨account.tree.bounded other waits, expanding.taken⟩
    · rw [or_iff_right same, List.mem_erase_of_ne same]
  · intro other node otherKnown
    exact Nat.le_succ_of_le (account.steps_le otherKnown)
  · rintro _ ⟨rfl⟩
    have steps_lt := Nat.lt_succ_of_le (account.steps_le known)
    exact ⟨_, known, expanding.taken, steps_lt, by simp [Stage.pending]⟩

theorem turn (account : Account size probe start (.taken number) expanded search)
    (known : search.nodes[number]? = some node) :
    Account size probe start (.looking number (neighbours size node.cell)) expanded search := by
  refine ⟨account.tree, account.ledger, account.expanded_iff, account.steps_le, ?_⟩
  rintro _ ⟨rfl⟩
  obtain ⟨same, sameKnown, outside, steps_lt, -⟩ := account.current number rfl
  obtain rfl := Option.some.inj (known.symm.trans sameKnown)
  exact ⟨node, known, outside, steps_lt, fun _ => Direction.mem_filterMap_step.mp⟩

theorem look (account : Account size probe start (.looking number (cell :: rest)) expanded search)
    (goal : Cell) :
    Account size probe start (.looking number rest) expanded
      (visit probe goal number search cell) := by
  obtain ⟨node, known, outside, steps_lt, stepped⟩ := account.current number rfl
  obtain ⟨direction, cell_stepped⟩ := stepped cell List.mem_cons_self
  have expanding : Expanding size probe start number node search :=
    ⟨account.tree, account.ledger, known, outside⟩
  have later : Expanding size probe start number node (visit probe goal number search cell) :=
    expanding.visit cell_stepped
  refine ⟨later.tree, later.ledger, ?_, ?_, ?_⟩
  · intro other
    rw [(expanding.extends_visit goal cell).idle_iff]
    exact account.expanded_iff
  · -- The node in hand leaves room for one step more.
    intro other otherNode otherKnown
    rcases known_or_child_of_visit known otherKnown with old | child_steps
    · exact account.steps_le old
    · exact child_steps ▸ steps_lt
  · rintro _ ⟨rfl⟩
    exact ⟨node, later.known, later.taken, steps_lt,
      fun other member => stepped other (List.mem_cons_of_mem cell member)⟩

theorem back (account : Account size probe start (.looking number []) expanded search) :
    Account size probe start .head expanded search :=
  ⟨account.tree, account.ledger, account.expanded_iff, account.steps_le, by simp [Stage.current?]⟩

end Account

namespace Arrives

variable {stage : Stage}

theorem account (arrival : Arrives size probe start goal limit stage expanded search) :
    Account size probe start stage expanded search := by
  induction arrival with
  | first => exact .first
  | take _ _ took induction => exact induction.take took
  | turn _ known _ induction => exact induction.turn known
  | look _ induction => exact induction.look goal
  | back _ induction => exact induction.back

/-- The main loop keeps to its budget. -/
theorem length_le (arrival : Arrives size probe start goal limit stage expanded search) :
    expanded.length ≤ limit := by
  induction arrival with
  | first => exact Nat.zero_le limit
  | take _ within => exact within
  | turn _ _ _ induction => exact induction
  | look _ induction => exact induction
  | back _ induction => exact induction

/-! ## The end of the main loop -/

/-- All neighbours that are left are looked at. -/
theorem foldl_visit
    (arrival : Arrives size probe start goal limit (.looking number rest) expanded search) :
    Arrives size probe start goal limit .head expanded
      (rest.foldl (visit probe goal number) search) := by
  induction rest generalizing search with
  | nil => exact arrival.back
  | cons cell rest induction => exact induction arrival.look

end Arrives

/-- The stage at which the main loop ends. -/
def Finish.stage (finish : Finish) : Stage :=
  match finish.reached with
  | some number => .taken number
  | none => .head

/-- The main loop gets to its end step by step. -/
theorem Arrives.run (arrival : Arrives size probe start goal limit .head expanded search)
    {budget : Nat} (left : expanded.length + budget = limit) :
    let finish := search.run size probe goal budget expanded.length
    ∃ last, last.length = finish.expanded ∧
      Arrives size probe start goal limit finish.stage last finish.search := by
  induction budget generalizing expanded search with
  | zero => exact ⟨expanded, rfl, arrival⟩
  | succ budget induction =>
      rw [Exploration.run]
      split
      · exact ⟨expanded, rfl, arrival⟩
      · rename_i number taken took
        have taken_arrival := arrival.take (by omega) took
        obtain ⟨node, known, -⟩ := taken_arrival.account.current number rfl
        simp only [known]
        split
        · exact ⟨number :: expanded, rfl, taken_arrival⟩
        · rename_i misses
          exact induction (taken_arrival.turn known misses).foldl_visit (by simp; omega)

/-! ## Gathering a route -/

/-- Gathers the cells from a node along the parents, for so many turns at most. It fails when it
comes upon a number without a node, and when the turns are used up before a node without a
parent. -/
def gather? (nodes : Array SearchNode) :
    (turns number : Nat) → (behind : List Cell) → Option (List Cell)
  | turns, number, behind =>
      match nodes[number]? with
      | none => none
      | some node =>
          match node.parent, turns with
          | none, _ => some behind
          | some _, 0 => none
          | some parent, turns + 1 => gather? nodes turns parent (node.cell :: behind)

theorem gather?_of_root {nodes : Array SearchNode} (known : nodes[number]? = some node)
    (orphan : node.parent = none) (turns : Nat) (behind : List Cell) :
    gather? nodes turns number behind = some behind := by
  cases turns <;> simp [gather?, known, orphan]

/-- Gathering a route takes as many turns as the node has steps. -/
theorem Tree.gather?_eq (tree : search.Tree size start) (known : search.nodes[number]? = some node)
    (turns : Nat) (behind : List Cell) :
    gather? search.nodes turns number behind =
      if node.steps ≤ turns then some (trail search.nodes number behind) else none := by
  -- The turns may be used up anywhere on the way, so the induction is on them and not on the tree.
  induction turns generalizing number node behind with
  | zero =>
      rcases Nat.eq_zero_or_pos number with rfl | positive
      · obtain ⟨estimate, rfl⟩ := tree.eq_root known
        rw [gather?_of_root known rfl, trail_of_root known rfl, if_pos (Nat.le_refl 0)]
      · obtain ⟨parent, parentNode, found, -, -, -, steps_eq, -⟩ := tree.child known positive.ne'
        rw [if_neg (by omega), gather?, known]
        simp only [found]
  | succ turns induction =>
      rcases Nat.eq_zero_or_pos number with rfl | positive
      · obtain ⟨estimate, rfl⟩ := tree.eq_root known
        rw [gather?_of_root known rfl, trail_of_root known rfl, if_pos (Nat.zero_le _)]
      · obtain ⟨parent, parentNode, found, parent_lt, parentKnown, -, steps_eq, -⟩ :=
          tree.child known positive.ne'
        rw [gather?, known, trail_of_child known found parent_lt, steps_eq]
        simp only [found, Nat.add_le_add_iff_right]
        exact induction parentKnown (node.cell :: behind)

/-! ## Exact costs -/

/-- The nodes of a search are a tree that grows from the start: every other node was found from one
with a smaller number that was taken out before, and costs one step more. -/
structure CostsExactly (start : Cell) (expanded : List Nat) (search : Exploration) : Prop where
  root : ∃ node, search.nodes[0]? = some node ∧ node.cell = start ∧ node.parent = none ∧
    node.steps = 0
  child : ∀ number node, search.nodes[number]? = some node → number ≠ 0 →
    ∃ parent parentNode, node.parent = some parent ∧ parent < number ∧ parent ∈ expanded ∧
      search.nodes[parent]? = some parentNode ∧ node.steps = parentNode.steps + 1
  /-- The steps never outnumber the nodes taken out. -/
  steps_le : ∀ (number : Nat) (node : SearchNode), search.nodes[number]? = some node →
    node.steps ≤ expanded.length

/-- The counts of a search keep to its budget, which is a word of 32 bits, also when the next node
is counted, and every number that it looks up is that of a node. -/
structure InBounds (cap : UInt32) (stage : Stage) (expanded : List Nat) (search : Exploration) :
    Prop where
  expanded_le : expanded.length ≤ cap.toNat
  /-- Another node that may be taken out can be counted. -/
  count_lt : expanded.length < cap.toNat → expanded.length + 1 < UInt32.size
  /-- The node in hand exists, and the steps of a child of it can be counted. -/
  child_steps_lt : ∀ number ∈ stage.current?, ∃ node,
    search.nodes[number]? = some node ∧ node.steps + 1 < UInt32.size
  frontier_lt : ∀ number ∈ search.frontier, number < search.nodes.size
  expanded_lt : ∀ number ∈ expanded, number < search.nodes.size

theorem Account.costsExactly {stage : Stage}
    (account : Account size probe start stage expanded search) :
    search.CostsExactly start expanded := by
  refine ⟨?_, ?_, fun number node known => account.steps_le known⟩
  · obtain ⟨estimate, first⟩ := account.tree.root
    exact ⟨_, first, rfl, rfl, rfl⟩
  · intro number node known positive
    obtain ⟨parent, parentNode, found, parent_lt, parentKnown, idle, steps_eq, -⟩ :=
      account.tree.child known positive
    have parent_lt_size := (Array.getElem?_eq_some_iff.mp parentKnown).1
    exact ⟨parent, parentNode, found, parent_lt, account.expanded_iff.mpr ⟨parent_lt_size, idle⟩,
      parentKnown, steps_eq⟩

theorem Arrives.inBounds {stage : Stage} {cap : UInt32}
    (arrival : Arrives size probe start goal cap.toNat stage expanded search) :
    search.InBounds cap stage expanded := by
  have cap_lt : cap.toNat < UInt32.size := cap.toNat_lt
  have length_le := arrival.length_le
  have account := arrival.account
  refine ⟨length_le, fun _ => by omega, ?_, account.tree.bounded, ?_⟩
  · intro number busy
    obtain ⟨node, known, -, steps_lt, -⟩ := account.current number busy
    exact ⟨node, known, by omega⟩
  · intro number counted
    exact (account.expanded_iff.mp counted).1

end Exploration

namespace SearchConfig

open Exploration

/-- Wherever the main loop of a search stands, its nodes are a tree with exact costs, its counts and
numbers keep to their bounds, and the route to a node is gathered in as many turns as the node
costs. -/
theorem explore_costs_exactly (config : SearchConfig) (size : GridSize) (start goal : Cell)
    (probe : Probe) :
    (∀ stage expanded search,
      Arrives size probe start goal config.iterationCap.toNat stage expanded search →
      search.CostsExactly start expanded ∧ search.InBounds config.iterationCap stage expanded ∧
      ∀ number node, search.nodes[number]? = some node →
        (search.route number).length = node.steps ∧
        ∀ turns, gather? search.nodes turns number [] =
          if node.steps ≤ turns then some (search.route number).cells else none) ∧
    let finish := config.explore size start goal probe
    ∃ expanded, expanded.length = finish.expanded ∧
      Arrives size probe start goal config.iterationCap.toNat finish.stage expanded
        finish.search := by
  refine ⟨?_, Arrives.first.run (Nat.zero_add _)⟩
  intro stage expanded search arrival
  have tree := arrival.account.tree
  refine ⟨arrival.account.costsExactly, arrival.inBounds, ?_⟩
  intro number node known
  exact ⟨tree.length_trail known, fun turns => tree.gather?_eq known turns []⟩

/-- Six steps around a wall take six turns to gather, and five are not enough. -/
theorem explore_costs_exactly_around_wall :
    let isBlocked (cell : Cell) := cell = ⟨1, 0⟩ || cell = ⟨1, 1⟩
    let route : List Cell := [⟨0, 1⟩, ⟨0, 2⟩, ⟨1, 2⟩, ⟨2, 2⟩, ⟨2, 1⟩, ⟨2, 0⟩]
    let finish := explore ⟨7⟩ ⟨3, 3⟩ ⟨0, 0⟩ ⟨2, 0⟩ (Probe.ofPredicate isBlocked)
    ∃ expanded number node, expanded.length = 7 ∧
      Arrives ⟨3, 3⟩ (Probe.ofPredicate isBlocked) ⟨0, 0⟩ ⟨2, 0⟩ 7 (.taken number) expanded
        finish.search ∧
      finish.search.nodes[number]? = some node ∧ node.steps = 6 ∧
      gather? finish.search.nodes 6 number [] = some route ∧
      gather? finish.search.nodes 5 number [] = none := by
  intro isBlocked route finish
  obtain ⟨costs, expanded, length_eq, arrival⟩ :=
    explore_costs_exactly ⟨7⟩ ⟨3, 3⟩ ⟨0, 0⟩ ⟨2, 0⟩ (Probe.ofPredicate isBlocked)
  have reached : finish.reached = some 6 := by decide +kernel
  have counted : finish.expanded = 7 := by decide +kernel
  have stage_eq : finish.stage = .taken 6 := by rw [Finish.stage, reached]
  rw [stage_eq] at arrival
  obtain ⟨-, bounds, gathers⟩ := costs _ _ _ arrival
  obtain ⟨node, known, -⟩ := bounds.child_steps_lt 6 rfl
  have gather?_eq := (gathers 6 node known).2
  have steps_eq : (finish.search.nodes[6]?).map SearchNode.steps = some 6 := by decide +kernel
  have cells_eq : (finish.search.route 6).cells = route := by decide +kernel
  rw [known, Option.map_some, Option.some.injEq] at steps_eq
  refine ⟨expanded, 6, node, length_eq.trans counted, arrival, known, steps_eq, ?_, ?_⟩
  · rw [gather?_eq, steps_eq, cells_eq, if_pos (Nat.le_refl 6)]
  · rw [gather?_eq, steps_eq, if_neg (by decide)]

end SearchConfig

end GridWalk
