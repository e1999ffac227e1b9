import GridWalk.Grid.Direction
import Mathlib.Data.List.Chain
import Mathlib.Data.Set.Card
import Mathlib.Order.Lattice.Nat

/-!
# Steps over open cells

A step goes to a neighbour within the grid that is not blocked; the flag of the cell it leaves does
not matter. Cells entered by steps one after another form a route. The main statements split a route
at its last step, and bound the length of a shortest route by the number of cells.
-/

namespace GridWalk

/-- A step to a neighbour within the grid that is not blocked. -/
def OpenStep (size : GridSize) (isBlocked : Cell → Bool) (cell next : Cell) : Prop :=
  (∃ direction : Direction, direction.step size cell = some next) ∧ isBlocked next = false

/-- The cells that steps lead to from `start`, which is itself among them whatever its flag. -/
def reachableCells (size : GridSize) (isBlocked : Cell → Bool) (start : Cell) : Set Cell :=
  {cell | Relation.ReflTransGen (OpenStep size isBlocked) start cell}

/-- The cells of a route are entered by steps one after another from `start`, the last being `goal`.
The route from a cell to itself may enter no cell. -/
structure IsRoute (size : GridSize) (isBlocked : Cell → Bool) (start goal : Cell)
    (cells : List Cell) : Prop where
  /-- Every cell is entered from the one before by a step. -/
  steps : (start :: cells).IsChain (OpenStep size isBlocked)
  /-- The route ends on the goal. -/
  ends : (start :: cells).getLast (List.cons_ne_nil start cells) = goal

/-- The numbers of steps of all routes between two cells. -/
def routeLengths (size : GridSize) (isBlocked : Cell → Bool) (start goal : Cell) : Set Nat :=
  {count | ∃ cells, IsRoute size isBlocked start goal cells ∧ cells.length = count}

instance : Finite Cell :=
  Finite.of_injective (fun cell : Cell => (cell.column.toFin, cell.row.toFin)) (by
    rintro ⟨column, row⟩ ⟨otherColumn, otherRow⟩ same
    simpa [UInt32.toFin_inj] using same)

/-! ## Directions of steps -/

namespace Direction

/-- The facing from a cell to its neighbour is the direction of the neighbour. -/
theorem between_of_step {direction : Direction} {size : GridSize} {cell next : Cell}
    (stepped : direction.step size cell = some next) : between cell next = some direction := by
  simp only [step, Option.filter_eq_some_iff] at stepped
  obtain ⟨moved, -⟩ := stepped
  cases direction <;>
    simp only [Direction.next] at moved <;> split at moved <;> cases moved <;> grind [between]

/-- No facing belongs to a move onto the same cell only. -/
theorem between_eq_none_iff {cell next : Cell} : between cell next = none ↔ cell = next := by
  obtain ⟨column, row⟩ := cell
  obtain ⟨nextColumn, nextRow⟩ := next
  simp only [between, Cell.mk.injEq]
  grind

end Direction

namespace OpenStep

variable {size : GridSize} {isBlocked : Cell → Bool} {cell next : Cell}

theorem contains (step : OpenStep size isBlocked cell next) : size.contains next = true := by
  obtain ⟨⟨direction, stepped⟩, -⟩ := step
  exact Direction.contains_of_step stepped

instance : Decidable (OpenStep size isBlocked cell next) :=
  decidable_of_iff
    ((∃ direction ∈ Direction.all, direction.step size cell = some next) ∧ isBlocked next = false)
    (by simp only [OpenStep, Direction.mem_all, true_and])

end OpenStep

/-! ## Routes -/

variable {size : GridSize} {isBlocked : Cell → Bool} {start goal next : Cell} {cells : List Cell}

theorem isRoute_nil : IsRoute size isBlocked start goal [] ↔ start = goal := by
  constructor
  · intro route
    exact route.ends
  · rintro rfl
    exact ⟨List.isChain_singleton start, rfl⟩

/-- A route with a last step is a route to some cell and a step from there. -/
theorem isRoute_append_singleton :
    IsRoute size isBlocked start goal (cells ++ [next]) ↔
      next = goal ∧ ∃ cell, IsRoute size isBlocked start cell cells ∧
        OpenStep size isBlocked cell next := by
  have last_eq : (start :: cells).getLast? = some ((start :: cells).getLast (by simp)) :=
    List.getLast?_eq_some_getLast (List.cons_ne_nil start cells)
  constructor
  · rintro ⟨steps, ends⟩
    rw [← List.cons_append, List.isChain_append] at steps
    refine ⟨by simpa using ends, _, ⟨steps.1, rfl⟩, ?_⟩
    exact steps.2.2 _ last_eq next rfl
  · rintro ⟨rfl, cell, ⟨steps, rfl⟩, step⟩
    refine ⟨?_, by simp⟩
    rw [← List.cons_append, List.isChain_append]
    refine ⟨steps, List.isChain_singleton next, ?_⟩
    rintro last last_mem first first_mem
    obtain rfl : (start :: cells).getLast _ = last := by simpa [last_eq] using last_mem
    obtain rfl : next = first := by simpa using first_mem
    exact step

namespace IsRoute

/-- Every cell that a route enters lies in the grid and is not blocked. -/
theorem contains_and_vacant_of_mem {cell : Cell} (route : IsRoute size isBlocked start goal cells)
    (member : cell ∈ cells) : size.contains cell = true ∧ isBlocked cell = false := by
  induction cells using List.reverseRecOn generalizing goal with
  | nil => cases member
  | append_singleton front last induction =>
      obtain ⟨rfl, before, front_route, step⟩ := isRoute_append_singleton.mp route
      rcases List.mem_append.mp member with member | member
      · exact induction front_route member
      · obtain rfl := List.mem_singleton.mp member
        exact ⟨step.contains, step.2⟩

/-- Either a route enters no cell and begins on its goal, or the goal is the last cell entered. -/
theorem eq_nil_or_getLast? (route : IsRoute size isBlocked start goal cells) :
    cells = [] ∧ start = goal ∨ cells.getLast? = some goal := by
  rcases List.eq_nil_or_concat' cells with rfl | ⟨front, last, rfl⟩
  · exact Or.inl ⟨rfl, isRoute_nil.mp route⟩
  · obtain ⟨rfl, -⟩ := isRoute_append_singleton.mp route
    exact Or.inr List.getLast?_concat

theorem mem_reachableCells (route : IsRoute size isBlocked start goal cells) :
    goal ∈ reachableCells size isBlocked start :=
  List.relationReflTransGen_of_exists_isChain_cons cells route.steps route.ends

end IsRoute

@[simp]
theorem zero_mem_routeLengths : 0 ∈ routeLengths size isBlocked start goal ↔ start = goal := by
  constructor
  · rintro ⟨cells, route, length_eq⟩
    obtain rfl := List.length_eq_zero_iff.mp length_eq
    exact isRoute_nil.mp route
  · intro same
    exact ⟨[], isRoute_nil.mpr same, rfl⟩

theorem succ_mem_routeLengths {count : Nat} :
    count + 1 ∈ routeLengths size isBlocked start goal ↔
      ∃ cell, count ∈ routeLengths size isBlocked start cell ∧
        OpenStep size isBlocked cell goal := by
  constructor
  · rintro ⟨cells, route, length_eq⟩
    obtain ⟨front, last, rfl⟩ :=
      (List.eq_nil_or_concat' cells).resolve_left (List.ne_nil_of_length_eq_add_one length_eq)
    obtain ⟨rfl, cell, front_route, step⟩ := isRoute_append_singleton.mp route
    exact ⟨cell, ⟨front, front_route, by simpa using length_eq⟩, step⟩
  · rintro ⟨cell, ⟨front, front_route, rfl⟩, step⟩
    exact ⟨front ++ [goal], isRoute_append_singleton.mpr ⟨rfl, cell, front_route, step⟩, by simp⟩

/-! ## Shortest routes -/

/-- The last step of a shortest route leaves a cell that is one step nearer. -/
theorem exists_isLeast_before {count : Nat}
    (isLeast : IsLeast (routeLengths size isBlocked start goal) (count + 1)) :
    ∃ cell, IsLeast (routeLengths size isBlocked start cell) count ∧
      OpenStep size isBlocked cell goal := by
  obtain ⟨cell, member, step⟩ := succ_mem_routeLengths.mp isLeast.1
  refine ⟨cell, ⟨member, ?_⟩, step⟩
  intro other other_mem
  have longer := isLeast.2 (succ_mem_routeLengths.mpr ⟨cell, other_mem, step⟩)
  omega

/-- Some cell lies at every distance up to that of the goal. -/
theorem exists_isLeast_routeLengths_of_le {least count : Nat}
    (isLeast : IsLeast (routeLengths size isBlocked start goal) least) (count_le : count ≤ least) :
    ∃ cell, IsLeast (routeLengths size isBlocked start cell) count := by
  induction least, count_le using Nat.le_induction generalizing goal with
  | base => exact ⟨goal, isLeast⟩
  | succ least _ induction =>
      obtain ⟨cell, nearer, -⟩ := exists_isLeast_before isLeast
      exact induction nearer

/-- If there is a route, then there is a shortest one. -/
theorem exists_isLeast_routeLengths {count : Nat}
    (member : count ∈ routeLengths size isBlocked start goal) :
    ∃ least ≤ count, IsLeast (routeLengths size isBlocked start goal) least :=
  ⟨sInf _, Nat.sInf_le member, Nat.sInf_mem ⟨count, member⟩, fun _ other_mem =>
    Nat.sInf_le other_mem⟩

/-- A route ends where it starts or with a step. -/
theorem eq_or_openStep_of_mem_routeLengths {count : Nat}
    (member : count ∈ routeLengths size isBlocked start goal) :
    start = goal ∨ ∃ cell, OpenStep size isBlocked cell goal := by
  cases count with
  | zero => exact Or.inl (zero_mem_routeLengths.mp member)
  | succ count =>
      obtain ⟨cell, -, step⟩ := succ_mem_routeLengths.mp member
      exact Or.inr ⟨cell, step⟩

theorem contains_of_mem_routeLengths {count : Nat} (start_inside : size.contains start = true)
    (member : count ∈ routeLengths size isBlocked start goal) : size.contains goal = true := by
  rcases eq_or_openStep_of_mem_routeLengths member with rfl | ⟨cell, step⟩
  · exact start_inside
  · exact step.contains

theorem vacant_of_mem_routeLengths {count : Nat} (start_vacant : isBlocked start = false)
    (member : count ∈ routeLengths size isBlocked start goal) : isBlocked goal = false := by
  rcases eq_or_openStep_of_mem_routeLengths member with rfl | ⟨cell, step⟩
  · exact start_vacant
  · exact step.2

/-- A shortest route leads exactly to the cells that steps lead to. -/
theorem mem_reachableCells_iff :
    goal ∈ reachableCells size isBlocked start ↔
      ∃ least, IsLeast (routeLengths size isBlocked start goal) least := by
  constructor
  · intro reachable
    obtain ⟨cells, steps, ends⟩ := List.exists_isChain_cons_of_relationReflTransGen reachable
    obtain ⟨least, -, isLeast⟩ := exists_isLeast_routeLengths ⟨cells, ⟨steps, ends⟩, rfl⟩
    exact ⟨least, isLeast⟩
  · rintro ⟨least, ⟨cells, route, -⟩, -⟩
    exact route.mem_reachableCells

/-- A shortest route has fewer steps than the grid has cells. -/
theorem isLeast_routeLengths_lt_cellCount {least : Nat} (start_inside : size.contains start = true)
    (isLeast : IsLeast (routeLengths size isBlocked start goal) least) :
    least < size.cellCount := by
  have cells_at (count : Fin (least + 1)) :
      ∃ cell, IsLeast (routeLengths size isBlocked start cell) count :=
    exists_isLeast_routeLengths_of_le isLeast (by omega)
  choose cellAt cellAt_least using cells_at
  have inside (count) : size.contains (cellAt count) = true :=
    contains_of_mem_routeLengths start_inside (cellAt_least count).1
  have numbered (count) := GridSize.index?_of_contains (inside count)
  -- Cells at different distances differ, and so do their numbers in the grid.
  let number (count : Fin (least + 1)) : Fin size.cellCount :=
    ⟨_, GridSize.index?_lt_cellCount (numbered count)⟩
  have number_injective : Function.Injective number := by
    intro count other same
    have same_number := Fin.val_eq_of_eq same
    have same_cell := GridSize.index?_injective (numbered count)
      ((numbered other).trans (congrArg some same_number.symm))
    have other_least := cellAt_least other
    rw [← same_cell] at other_least
    exact Fin.ext ((cellAt_least count).unique other_least)
  have card_le := Fintype.card_le_of_injective number number_injective
  simp only [Fintype.card_fin] at card_le
  exact card_le

end GridWalk
