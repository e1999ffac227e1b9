import GridWalk.Search.Exploration
import Mathlib.Data.List.Sort

/-!
# Expanding a node

What looking at the neighbours of a node does to the state of a search, whatever the probe answers.
The nodes form a tree: each but the first was found by a step from an earlier node that no longer
waits, and no two stand on one cell. The ledger says what was seen, asked and answered. One lemma
lists the three ways in which looking at a neighbour goes; everything else follows from it.
-/

namespace GridWalk

/-- What the probe answered about a cell, if it was asked, the latest cell asked about first. -/
def Probe.answer? (probe : Probe) : List Cell → Cell → Option Bool
  | [], _ => none
  | latest :: earlier, cell =>
      if latest = cell then some (probe earlier latest) else probe.answer? earlier cell

theorem Probe.answer?_ofPredicate (isBlocked : Cell → Bool) (asked : List Cell) (cell : Cell) :
    (Probe.ofPredicate isBlocked).answer? asked cell =
      if cell ∈ asked then some (isBlocked cell) else none := by
  induction asked with
  | nil => rfl
  | cons latest earlier induction =>
      by_cases same : latest = cell
      · simp [answer?, same, ofPredicate]
      · simp [answer?, same, Ne.symm same, induction]

theorem Probe.answer?_eq_none {probe : Probe} {asked : List Cell} {cell : Cell}
    (unasked : cell ∉ asked) : probe.answer? asked cell = none := by
  induction asked with
  | nil => rfl
  | cons latest earlier induction =>
      simp only [List.mem_cons, not_or] at unasked
      simp [answer?, Ne.symm unasked.1, induction unasked.2]

namespace Exploration

variable {size : GridSize} {probe : Probe} {start goal cell : Cell} {search later : Exploration}
  {number : Nat} {node : SearchNode}

/-! ## Taking nodes out of the frontier -/

theorem best_mem (nodes : Array SearchNode) (number : Nat) (least : Length) (others : List Nat) :
    best nodes number least others ∈ number :: others := by
  induction others generalizing number least with
  | nil => simp [best]
  | cons other others induction =>
      rw [best]
      split
      · have member := induction number least
        grind
      · have member := induction other (estimate nodes other)
        grind

theorem estimate_of_known (known : search.nodes[number]? = some node) :
    estimate search.nodes number = node.estimate := by
  simp [estimate, known]

/-- No estimate is less than that of the best node. -/
theorem estimate_best_le (nodes : Array SearchNode) (number : Nat) (others : List Nat)
    {other : Nat} (member : other ∈ number :: others) :
    estimate nodes (best nodes number (estimate nodes number) others) ≤ estimate nodes other := by
  induction others generalizing number other with
  | nil =>
      obtain rfl := List.mem_singleton.mp member
      exact Length.le_refl _
  | cons candidate others induction =>
      rw [best]
      split
      · rename_i kept
        rcases List.mem_cons.mp member with rfl | member
        · exact induction other List.mem_cons_self
        · rcases List.mem_cons.mp member with rfl | member
          · exact Length.le_trans (induction number List.mem_cons_self) kept
          · exact induction number (List.mem_cons_of_mem number member)
      · rename_i improved
        rcases List.mem_cons.mp member with rfl | member
        · have less := (Length.le_total _ _).resolve_left improved
          exact Length.le_trans (induction candidate List.mem_cons_self) less
        · exact induction candidate member

theorem takeBest_eq_none_iff : search.takeBest = none ↔ search.frontier = [] := by
  unfold takeBest
  split <;> simp_all

theorem eq_of_takeBest (took : search.takeBest = some (number, later)) :
    number ∈ search.frontier ∧
      later = { search with frontier := search.frontier.erase number } := by
  unfold takeBest at took
  split at took
  · cases took
  · rename_i first rest waiting
    cases took
    rw [waiting]
    exact ⟨best_mem _ _ _ _, rfl⟩

/-- The node that is taken out has the least estimate of those that wait. -/
theorem estimate_le_of_takeBest (took : search.takeBest = some (number, later)) {other : Nat}
    (waits : other ∈ search.frontier) :
    estimate search.nodes number ≤ estimate search.nodes other := by
  unfold takeBest at took
  split at took
  · cases took
  · rename_i first rest waiting
    cases took
    rw [waiting] at waits
    exact estimate_best_le search.nodes first rest waits

/-! ## Looking at a neighbour -/

theorem isSeen_insert {parent : Option Nat} {other : Cell} :
    (search.insert goal cell parent).isSeen other = (cell == other || search.isSeen other) :=
  CellSet.contains_insert

/-- The node that an open neighbour of another node becomes. -/
def child (goal cell : Cell) (number : Nat) (parent : SearchNode) : SearchNode :=
  ⟨cell, some number, parent.steps + 1, Length.ofNat (parent.steps + 1) + cell.euclidean goal⟩

/-- The search that has asked about a cell and been told that it is blocked. -/
def ruleOut (search : Exploration) (cell : Cell) : Exploration :=
  { search with seen := search.seen.insert cell, asked := cell :: search.asked }

/-- The search that has asked about a neighbour of a node and been told that it is open. -/
def discover (search : Exploration) (goal cell : Cell) (number : Nat) (node : SearchNode) :
    Exploration :=
  { nodes := search.nodes.push (child goal cell number node)
    frontier := search.nodes.size :: search.frontier
    seen := search.seen.insert cell
    asked := cell :: search.asked }

/-- A cell seen before is passed over, a blocked one is ruled out and an open one becomes a node. -/
theorem visit_cases (known : search.nodes[number]? = some node) :
    search.isSeen cell = true ∧ visit probe goal number search cell = search ∨
    search.isSeen cell = false ∧ probe search.asked cell = true ∧
      visit probe goal number search cell = search.ruleOut cell ∨
    search.isSeen cell = false ∧ probe search.asked cell = false ∧
      visit probe goal number search cell = search.discover goal cell number node := by
  cases seen : search.isSeen cell with
  | true => exact Or.inl ⟨rfl, by simp [visit, seen]⟩
  | false =>
      cases answered : probe search.asked cell with
      | true => exact Or.inr (Or.inl ⟨rfl, rfl, by simp [visit, seen, answered, markSeen, ruleOut]⟩)
      | false =>
          refine Or.inr (Or.inr ⟨rfl, rfl, ?_⟩)
          simp [visit, seen, answered, insert, childSteps, known, child, discover]

/-- How a later state of a search stands to an earlier one from which no node was taken out in
between. -/
structure Extends (later search : Exploration) : Prop where
  /-- Nodes stay as they are. -/
  nodes : ∀ {number : Nat} {node : SearchNode},
    search.nodes[number]? = some node → later.nodes[number]? = some node
  /-- The nodes that wait are those that waited and those that are new. -/
  waits_iff : ∀ {number : Nat}, number < later.nodes.size →
    (number ∈ later.frontier ↔ number ∈ search.frontier ∨ search.nodes.size ≤ number)
  /-- Every new node waits. -/
  count : later.nodes.size + search.frontier.length = search.nodes.size + later.frontier.length
  /-- What was seen stays seen. -/
  seen : ∀ {cell : Cell}, search.isSeen cell = true → later.isSeen cell = true

namespace Extends

theorem refl (search : Exploration) : search.Extends search where
  nodes known := known
  waits_iff number_lt := by
    constructor
    · exact Or.inl
    · rintro (waits | size_le)
      · exact waits
      · omega
  count := rfl
  seen seen := seen

theorem size_le (extension : later.Extends search) : search.nodes.size ≤ later.nodes.size := by
  by_contra smaller
  have known : search.nodes[later.nodes.size]? = some search.nodes[later.nodes.size] :=
    Array.getElem?_eq_getElem (by omega)
  have := extension.nodes known
  simp at this

theorem trans {final : Exploration} (second : final.Extends later)
    (first : later.Extends search) : final.Extends search where
  nodes known := second.nodes (first.nodes known)
  waits_iff {number} number_lt := by
    have size_le := first.size_le
    rw [second.waits_iff number_lt]
    rcases Nat.lt_or_ge number later.nodes.size with old | new
    · rw [first.waits_iff old]
      exact or_iff_left (by omega)
    · exact iff_of_true (Or.inr new) (Or.inr (size_le.trans new))
  count := by
    have first_count := first.count
    have second_count := second.count
    omega
  seen seen := second.seen (first.seen seen)

end Extends

/-! ## What holds in every state -/

/-- The nodes of a search form a tree, and those that wait are kept in the order of discovery. -/
structure Tree (size : GridSize) (start : Cell) (search : Exploration) : Prop where
  /-- The first node stands on the start and was found from no other. -/
  root : ∃ estimate, search.nodes[0]? = some ⟨start, none, 0, estimate⟩
  /-- Every other node was found by a step from an earlier node that no longer waits. -/
  child : ∀ {number : Nat} {node : SearchNode}, search.nodes[number]? = some node → number ≠ 0 →
    ∃ parent parentNode, node.parent = some parent ∧ parent < number ∧
      search.nodes[parent]? = some parentNode ∧ parent ∉ search.frontier ∧
      node.steps = parentNode.steps + 1 ∧
      ∃ direction : Direction, direction.step size parentNode.cell = some node.cell
  /-- No two nodes stand on one cell. -/
  distinct : ∀ {number other : Nat} {node otherNode : SearchNode},
    search.nodes[number]? = some node → search.nodes[other]? = some otherNode →
    node.cell = otherNode.cell → number = other
  /-- Only nodes wait. -/
  bounded : ∀ number ∈ search.frontier, number < search.nodes.size
  /-- The latest discovered node that waits comes first. -/
  sorted : search.frontier.Pairwise (· > ·)

/-- The questions of a search and their answers agree with what was seen and what became a node. -/
structure Ledger (probe : Probe) (start : Cell) (search : Exploration) : Prop where
  /-- Exactly the start and the cells asked about were seen. -/
  seen_iff : ∀ {cell : Cell}, search.isSeen cell = true ↔ cell = start ∨ cell ∈ search.asked
  /-- No question is about the start. -/
  start_unasked : start ∉ search.asked
  /-- No question comes twice. -/
  nodup : search.asked.Nodup
  /-- Exactly the start and the cells answered open became nodes. -/
  node_iff : ∀ {cell : Cell},
    (∃ (number : Nat) (node : SearchNode), search.nodes[number]? = some node ∧ node.cell = cell) ↔
      cell = start ∨ probe.answer? search.asked cell = some false

/-- The estimate of every node is its steps and the straight line from its cell to the goal. -/
def Estimated (goal : Cell) (search : Exploration) : Prop :=
  ∀ (number : Nat) (node : SearchNode), search.nodes[number]? = some node →
    node.estimate = Length.ofNat node.steps + node.cell.euclidean goal

/-- A state while the neighbours of a node are looked at. -/
structure Expanding (size : GridSize) (probe : Probe) (start : Cell) (number : Nat)
    (node : SearchNode) (search : Exploration) : Prop where
  /-- The nodes form a tree. -/
  tree : search.Tree size start
  /-- The questions are accounted for. -/
  ledger : search.Ledger probe start
  /-- The node that is expanded. -/
  known : search.nodes[number]? = some node
  /-- It was taken out of the frontier. -/
  taken : number ∉ search.frontier

theorem Tree.eq_root (tree : search.Tree size start) (known : search.nodes[0]? = some node) :
    ∃ estimate, node = ⟨start, none, 0, estimate⟩ := by
  obtain ⟨estimate, first⟩ := tree.root
  exact ⟨estimate, Option.some.inj (known.symm.trans first)⟩

theorem Tree.contains (tree : search.Tree size start) (start_inside : size.contains start = true)
    (known : search.nodes[number]? = some node) : size.contains node.cell = true := by
  rcases Nat.eq_zero_or_pos number with rfl | positive
  · obtain ⟨estimate, rfl⟩ := tree.eq_root known
    exact start_inside
  · obtain ⟨parent, parentNode, -, -, -, -, -, direction, stepped⟩ :=
      tree.child known positive.ne'
    exact Direction.contains_of_step stepped

theorem Ledger.seen_of_node (ledger : search.Ledger probe start)
    (known : search.nodes[number]? = some node) : search.isSeen node.cell = true := by
  rw [ledger.seen_iff]
  rcases ledger.node_iff.mp ⟨number, node, known, rfl⟩ with same | answered
  · exact Or.inl same
  · by_contra unseen
    rw [not_or] at unseen
    rw [Probe.answer?_eq_none unseen.2] at answered
    cases answered

/-! ## The first state -/

/-- The last node of an array, or a node before it. -/
theorem getElem?_push_eq_some {nodes : Array SearchNode} {last : SearchNode} :
    (nodes.push last)[number]? = some node ↔
      nodes[number]? = some node ∨ number = nodes.size ∧ node = last := by
  rw [Array.getElem?_push]
  split
  · rename_i same
    subst same
    simp [eq_comm]
  · rename_i differs
    simp [differs]

theorem getElem?_first :
    (empty.insert goal start none).nodes[number]? = some node ↔
      number = 0 ∧ node = ⟨start, none, 0, Length.ofNat 0 + start.euclidean goal⟩ := by
  simp only [insert]
  rw [getElem?_push_eq_some]
  simp [empty, childSteps]

theorem tree_first : (empty.insert goal start none).Tree size start where
  root := ⟨_, getElem?_first.mpr ⟨rfl, rfl⟩⟩
  child known positive := (positive (getElem?_first.mp known).1).elim
  distinct known otherKnown _ :=
    (getElem?_first.mp known).1.trans (getElem?_first.mp otherKnown).1.symm
  bounded number waits := by simpa [insert, empty] using waits
  sorted := List.pairwise_singleton _ _

theorem estimated_first : (empty.insert goal start none).Estimated goal := by
  intro number node known
  obtain ⟨-, rfl⟩ := getElem?_first.mp known
  rfl

theorem ledger_first : (empty.insert goal start none).Ledger probe start where
  seen_iff {cell} := by
    have unseen : empty.isSeen cell = false := CellSet.contains_empty
    rw [isSeen_insert, unseen, Bool.or_false, beq_iff_eq, eq_comm]
    exact (or_iff_left List.not_mem_nil).symm
  start_unasked := List.not_mem_nil
  nodup := List.nodup_nil
  node_iff {cell} := by
    simp only [getElem?_first]
    constructor
    · rintro ⟨number, node, ⟨rfl, rfl⟩, rfl⟩
      exact Or.inl rfl
    · rintro (rfl | answered)
      · exact ⟨0, _, ⟨rfl, rfl⟩, rfl⟩
      · cases answered

/-! ## One neighbour -/

theorem isSeen_ruleOut : (search.ruleOut cell).isSeen cell = true :=
  CellSet.contains_insert.trans (by simp)

theorem isSeen_discover : (search.discover goal cell number node).isSeen cell = true :=
  CellSet.contains_insert.trans (by simp)

theorem contains_insert_of_contains {seen : CellSet} {other : Cell}
    (member : seen.contains other = true) : (seen.insert cell).contains other = true := by
  simp [member]

theorem extends_ruleOut (search : Exploration) (cell : Cell) :
    (search.ruleOut cell).Extends search :=
  ⟨id, (Extends.refl search).waits_iff, rfl, contains_insert_of_contains⟩

theorem extends_discover (search : Exploration) (goal cell : Cell) (number : Nat)
    (node : SearchNode) : (search.discover goal cell number node).Extends search := by
  refine ⟨fun known => getElem?_push_eq_some.mpr (Or.inl known), ?_, ?_,
    contains_insert_of_contains⟩
  · intro other other_lt
    simp only [discover, Array.size_push] at other_lt
    simp only [discover, List.mem_cons]
    constructor
    · rintro (rfl | waits)
      · exact Or.inr (Nat.le_refl _)
      · exact Or.inl waits
    · rintro (waits | size_le)
      · exact Or.inr waits
      · exact Or.inl (by omega)
  · simp only [discover, Array.size_push, List.length_cons]
    omega

namespace Tree

theorem ruleOut (tree : search.Tree size start) (cell : Cell) :
    (search.ruleOut cell).Tree size start :=
  ⟨tree.root, tree.child, tree.distinct, tree.bounded, tree.sorted⟩

/-- A node on a new cell, found by a step from a node that no longer waits, joins the tree. -/
theorem discover (tree : search.Tree size start) (goal : Cell)
    (known : search.nodes[number]? = some node) (taken : number ∉ search.frontier)
    (fresh : ∀ {other : Nat} {otherNode : SearchNode},
      search.nodes[other]? = some otherNode → otherNode.cell ≠ cell)
    {direction : Direction} (stepped : direction.step size node.cell = some cell) :
    (search.discover goal cell number node).Tree size start := by
  have number_lt := (Array.getElem?_eq_some_iff.mp known).1
  refine ⟨?_, ?_, ?_, ?_, List.pairwise_cons.mpr ⟨tree.bounded, tree.sorted⟩⟩
  · obtain ⟨estimate, first⟩ := tree.root
    exact ⟨estimate, getElem?_push_eq_some.mpr (Or.inl first)⟩
  · intro other otherNode otherKnown positive
    -- A parent neither waits nor is the new node, which waits.
    have still {parent : Nat} (parent_lt : parent < search.nodes.size)
        (taken : parent ∉ search.frontier) :
        parent ∉ (search.discover goal cell number node).frontier := by
      rw [Exploration.discover, List.mem_cons, not_or]
      exact ⟨by omega, taken⟩
    rcases getElem?_push_eq_some.mp otherKnown with old | ⟨rfl, rfl⟩
    · obtain ⟨parent, parentNode, parent_eq, parent_lt, parentKnown, parentTaken, rest⟩ :=
        tree.child old positive
      have other_lt := (Array.getElem?_eq_some_iff.mp old).1
      exact ⟨parent, parentNode, parent_eq, parent_lt,
        getElem?_push_eq_some.mpr (Or.inl parentKnown),
        still (parent_lt.trans other_lt) parentTaken, rest⟩
    · exact ⟨number, node, rfl, number_lt, getElem?_push_eq_some.mpr (Or.inl known),
        still number_lt taken, rfl, direction, stepped⟩
  · intro one other oneNode otherNode oneKnown otherKnown same
    rcases getElem?_push_eq_some.mp oneKnown with old | ⟨rfl, rfl⟩
    · rcases getElem?_push_eq_some.mp otherKnown with otherOld | ⟨rfl, rfl⟩
      · exact tree.distinct old otherOld same
      · exact (fresh old same).elim
    · rcases getElem?_push_eq_some.mp otherKnown with otherOld | ⟨rfl, rfl⟩
      · exact (fresh otherOld same.symm).elim
      · rfl
  · intro other waits
    rw [Exploration.discover, Array.size_push]
    rcases List.mem_cons.mp waits with rfl | waits
    · exact Nat.lt_succ_self _
    · exact Nat.lt_succ_of_lt (tree.bounded other waits)

end Tree

namespace Ledger

theorem fresh (ledger : search.Ledger probe start) (unseen : search.isSeen cell = false) :
    cell ≠ start ∧ cell ∉ search.asked := by
  rw [← not_or, ← ledger.seen_iff, unseen]
  exact Bool.false_ne_true

theorem seen_insert (ledger : search.Ledger probe start) {other : Cell} :
    (search.seen.insert cell).contains other = true ↔
      other = start ∨ other ∈ cell :: search.asked := by
  have old : search.seen.contains other = true ↔ other = start ∨ other ∈ search.asked :=
    ledger.seen_iff
  simp only [CellSet.contains_insert, Bool.or_eq_true, beq_iff_eq, old, List.mem_cons,
    eq_comm (a := cell)]
  tauto

theorem start_notMem (ledger : search.Ledger probe start) (unseen : search.isSeen cell = false) :
    start ∉ cell :: search.asked := by
  rw [List.mem_cons, not_or]
  exact ⟨Ne.symm (ledger.fresh unseen).1, ledger.start_unasked⟩

theorem nodup_cons (ledger : search.Ledger probe start) (unseen : search.isSeen cell = false) :
    (cell :: search.asked).Nodup :=
  List.nodup_cons.mpr ⟨(ledger.fresh unseen).2, ledger.nodup⟩

theorem ruleOut (ledger : search.Ledger probe start) (unseen : search.isSeen cell = false)
    (answered : probe search.asked cell = true) : (search.ruleOut cell).Ledger probe start := by
  refine ⟨ledger.seen_insert, ledger.start_notMem unseen, ledger.nodup_cons unseen, ?_⟩
  intro other
  simp only [Exploration.ruleOut]
  rw [ledger.node_iff]
  by_cases same : cell = other
  · subst same
    simp [Probe.answer?, answered, Probe.answer?_eq_none (ledger.fresh unseen).2]
  · simp [Probe.answer?, same]

theorem discover (ledger : search.Ledger probe start) (goal : Cell) (number : Nat)
    (node : SearchNode) (unseen : search.isSeen cell = false)
    (answered : probe search.asked cell = false) :
    (search.discover goal cell number node).Ledger probe start := by
  refine ⟨ledger.seen_insert, ledger.start_notMem unseen, ledger.nodup_cons unseen, ?_⟩
  intro other
  simp only [Exploration.discover, getElem?_push_eq_some]
  by_cases same : cell = other
  · subst same
    simp only [Probe.answer?, if_pos, answered, or_true, iff_true]
    exact ⟨_, _, Or.inr ⟨rfl, rfl⟩, rfl⟩
  · rw [Probe.answer?, if_neg same, ← ledger.node_iff]
    constructor
    · rintro ⟨number, node, known | ⟨rfl, rfl⟩, cell_eq⟩
      · exact ⟨number, node, known, cell_eq⟩
      · exact (same cell_eq).elim
    · rintro ⟨number, node, known, cell_eq⟩
      exact ⟨number, node, Or.inl known, cell_eq⟩

end Ledger

namespace Estimated

theorem insert (estimated : search.Estimated goal) (cell : Cell) (parent : Option Nat) :
    (search.insert goal cell parent).Estimated goal := by
  intro number node known
  simp only [Exploration.insert] at known
  rcases getElem?_push_eq_some.mp known with old | ⟨-, rfl⟩
  · exact estimated number node old
  · rfl

theorem visit (estimated : search.Estimated goal) (number : Nat) (cell : Cell) :
    (visit probe goal number search cell).Estimated goal := by
  unfold Exploration.visit
  dsimp only
  split
  · exact estimated
  · split
    · exact estimated
    · exact insert estimated cell (some number)

theorem foldl_visit (estimated : search.Estimated goal) (number : Nat) (cells : List Cell) :
    (cells.foldl (Exploration.visit probe goal number) search).Estimated goal :=
  List.foldlRecOn _ _ estimated fun _ earlier next _ => visit earlier number next

theorem expand (estimated : search.Estimated goal) (number : Nat) (cell : Cell) :
    (search.expand size probe goal number cell).Estimated goal :=
  estimated.foldl_visit number _

end Estimated

namespace Expanding

theorem extends_visit (expanding : Expanding size probe start number node search)
    (goal cell : Cell) : (visit probe goal number search cell).Extends search := by
  obtain ⟨-, same⟩ | ⟨-, -, same⟩ | ⟨-, -, same⟩ := visit_cases expanding.known <;> rw [same]
  · exact Extends.refl search
  · exact extends_ruleOut search cell
  · exact extends_discover search goal cell number node

theorem isSeen_visit (expanding : Expanding size probe start number node search) :
    (visit probe goal number search cell).isSeen cell = true := by
  obtain ⟨seen, same⟩ | ⟨-, -, same⟩ | ⟨-, -, same⟩ := visit_cases expanding.known <;> rw [same]
  · exact seen
  · exact isSeen_ruleOut
  · exact isSeen_discover

theorem tree_visit (expanding : Expanding size probe start number node search)
    {direction : Direction} (stepped : direction.step size node.cell = some cell) :
    (visit probe goal number search cell).Tree size start := by
  obtain ⟨-, same⟩ | ⟨-, -, same⟩ | ⟨unseen, -, same⟩ := visit_cases expanding.known <;> rw [same]
  · exact expanding.tree
  · exact expanding.tree.ruleOut cell
  · refine expanding.tree.discover goal expanding.known expanding.taken ?_ stepped
    rintro other otherNode known rfl
    rw [expanding.ledger.seen_of_node known] at unseen
    cases unseen

theorem ledger_visit (expanding : Expanding size probe start number node search) :
    (visit probe goal number search cell).Ledger probe start := by
  obtain ⟨-, same⟩ | ⟨unseen, answered, same⟩ | ⟨unseen, answered, same⟩ :=
    visit_cases expanding.known <;> rw [same]
  · exact expanding.ledger
  · exact expanding.ledger.ruleOut unseen answered
  · exact expanding.ledger.discover goal number node unseen answered

/-- Looking at a neighbour of the expanded node keeps everything in order. -/
theorem visit (expanding : Expanding size probe start number node search)
    {direction : Direction} (stepped : direction.step size node.cell = some cell) :
    Expanding size probe start number node (visit probe goal number search cell) := by
  have extension := expanding.extends_visit goal cell
  refine ⟨expanding.tree_visit stepped, expanding.ledger_visit, extension.nodes expanding.known, ?_⟩
  have number_lt := (Array.getElem?_eq_some_iff.mp expanding.known).1
  rw [extension.waits_iff (number_lt.trans_le extension.size_le), not_or]
  exact ⟨expanding.taken, by omega⟩

/-! ## All neighbours -/

/-- Looking at several neighbours keeps everything in order, and they are all seen afterwards. -/
theorem foldl_visit {cells : List Cell} (expanding : Expanding size probe start number node search)
    (goal : Cell) (neighbours : ∀ cell ∈ cells, ∃ direction : Direction,
      direction.step size node.cell = some cell) :
    let later := cells.foldl (Exploration.visit probe goal number) search
    Expanding size probe start number node later ∧ later.Extends search ∧
      ∀ cell ∈ cells, later.isSeen cell = true := by
  induction cells generalizing search with
  | nil => exact ⟨expanding, Extends.refl search, by simp⟩
  | cons cell cells induction =>
      obtain ⟨direction, stepped⟩ := neighbours cell List.mem_cons_self
      have extension := expanding.extends_visit goal cell
      obtain ⟨last, lastExtension, seen⟩ := induction (expanding.visit stepped)
        fun other member => neighbours other (List.mem_cons_of_mem cell member)
      refine ⟨last, lastExtension.trans extension, ?_⟩
      intro other member
      rcases List.mem_cons.mp member with rfl | member
      · exact lastExtension.seen expanding.isSeen_visit
      · exact seen other member

theorem expand (expanding : Expanding size probe start number node search) (goal : Cell) :
    let later := search.expand size probe goal number node.cell
    Expanding size probe start number node later ∧ later.Extends search ∧
      ∀ (direction : Direction) (next : Cell), direction.step size node.cell = some next →
        later.isSeen next = true := by
  obtain ⟨last, extension, seen⟩ :=
    expanding.foldl_visit goal fun _ => Direction.mem_filterMap_step.mp
  refine ⟨last, extension, ?_⟩
  intro direction next stepped
  exact seen next (Direction.mem_filterMap_step.mpr ⟨direction, stepped⟩)

end Expanding

end Exploration

end GridWalk
