import GridWalk.Grid.CellMap
import GridWalk.Proofs.Search.Expansion
import GridWalk.Search.PathFinder

/-!
# Searches with flags

A search keeps the cells that it has seen as a sparse set. A plain way to keep them is a map with
one flag for every cell of the grid. The search that reads the flags and never the set runs through
the same states, since the flags answer as the set does for every cell of the grid and a step never
leaves it.
-/

namespace GridWalk

/-- A flag for every cell of a grid, set when the cell is seen. -/
structure SeenMap (size : GridSize) where
  /-- Whether a cell was seen. -/
  flags : CellMap size Bool

namespace SeenMap

variable {size : GridSize} {probe : Probe} {goal cell other : Cell} {number : Nat}
  {map : SeenMap size} {search : Exploration}

/-- The map of a grid of which nothing was seen. -/
def fresh (size : GridSize) : SeenMap size :=
  ⟨.replicate size false⟩

/-- Whether the cell was seen; a cell without a flag counts as seen. -/
def isSeen (map : SeenMap size) (cell : Cell) : Bool :=
  (map.flags.get? cell).getD true

/-- Sets the flag of a cell. -/
def mark (map : SeenMap size) (cell : Cell) : SeenMap size :=
  ⟨map.flags.set cell true⟩

theorem isSeen_fresh (inside : size.contains cell = true) : (fresh size).isSeen cell = false := by
  rw [isSeen, fresh, CellMap.get?_replicate, if_pos inside, Option.getD_some]

theorem isSeen_mark (inside : size.contains other = true) :
    (map.mark cell).isSeen other = (cell == other || map.isSeen other) := by
  rw [isSeen, mark, CellMap.get?_set]
  by_cases same : cell = other
  · subst same
    rw [if_pos ⟨rfl, inside⟩, beq_self_eq_true, Bool.true_or, Option.getD_some]
  · rw [if_neg (fun both => same both.1), beq_false_of_ne same, Bool.false_or, isSeen]

/-- The flags answer as the set of a search for every cell of the grid. -/
def Depicts (map : SeenMap size) (search : Exploration) : Prop :=
  ∀ cell, size.contains cell = true → map.isSeen cell = search.isSeen cell

/-! ## The search that reads the flags -/

/-- Looks at a neighbour as `Exploration.visit` does, but by the flags. The set is kept as well,
though nothing reads it. -/
def visit (probe : Probe) (goal : Cell) (parent : Nat) (state : Exploration × SeenMap size)
    (cell : Cell) : Exploration × SeenMap size :=
  let (search, map) := state
  if map.isSeen cell then
    (search, map)
  else
    let blocked := probe search.asked cell
    let search := { search with asked := cell :: search.asked }
    (if blocked then search.markSeen cell else search.insert goal cell (some parent), map.mark cell)

/-- Looks at all neighbours of a cell within the grid by the flags. -/
def expand (probe : Probe) (goal : Cell) (number : Nat) (cell : Cell)
    (state : Exploration × SeenMap size) : Exploration × SeenMap size :=
  (Direction.all.filterMap (·.step size cell)).foldl (visit probe goal number) state

/-- The main loop by the flags. -/
def run (probe : Probe) (goal : Cell) :
    (budget expanded : Nat) → Exploration × SeenMap size → Exploration.Finish
  | 0, expanded, (search, _) => ⟨search, expanded, none⟩
  | budget + 1, expanded, (search, map) =>
      match search.takeBest with
      | none => ⟨search, expanded, none⟩
      | some (number, search) =>
          match search.nodes[number]? with
          | none => ⟨search, expanded + 1, none⟩
          | some node =>
              if node.cell = goal then
                ⟨search, expanded + 1, some number⟩
              else
                run probe goal budget (expanded + 1)
                  (expand probe goal number node.cell (search, map))

/-! ## The same search -/

theorem Depicts.mark {later : Exploration} (depicts : map.Depicts search)
    (isSeen_eq : ∀ other, later.isSeen other = (cell == other || search.isSeen other)) :
    (map.mark cell).Depicts later := by
  intro other inside
  rw [isSeen_mark inside, isSeen_eq, depicts other inside]

/-- Flags that answer as the set make the same of a cell of the grid. -/
theorem Depicts.visit (depicts : map.Depicts search) (inside : size.contains cell = true) :
    ∃ later : SeenMap size, later.Depicts (search.visit probe goal number cell) ∧
      SeenMap.visit probe goal number (search, map) cell =
        (search.visit probe goal number cell, later) := by
  rw [SeenMap.visit, Exploration.visit, depicts cell inside]
  cases search.isSeen cell with
  | true => exact ⟨map, depicts, rfl⟩
  | false =>
      refine ⟨map.mark cell, depicts.mark ?_, rfl⟩
      intro other
      simp only [Bool.false_eq_true, if_false]
      split <;> exact CellSet.contains_insert

theorem Depicts.expand (depicts : map.Depicts search) (probe : Probe) (goal : Cell) (number : Nat)
    (cell : Cell) :
    ∃ later : SeenMap size, later.Depicts (search.expand size probe goal number cell) ∧
      SeenMap.expand probe goal number cell (search, map) =
        (search.expand size probe goal number cell, later) := by
  have inside := Direction.contains_of_mem_filterMap_step size cell
  rw [SeenMap.expand, Exploration.expand]
  generalize Direction.all.filterMap (·.step size cell) = neighbours at inside
  induction neighbours generalizing search map with
  | nil => exact ⟨map, depicts, rfl⟩
  | cons first neighbours induction =>
      rw [List.forall_mem_cons] at inside
      obtain ⟨later, later_depicts, visit_eq⟩ := depicts.visit inside.1
      rw [List.foldl_cons, List.foldl_cons, visit_eq]
      exact induction later_depicts inside.2

theorem Depicts.run (depicts : map.Depicts search) (budget expanded : Nat) :
    SeenMap.run probe goal budget expanded (search, map) =
      search.run size probe goal budget expanded := by
  induction budget generalizing expanded search map with
  | zero => rfl
  | succ budget induction =>
      rw [SeenMap.run, Exploration.run]
      cases took : search.takeBest with
      | none => rfl
      | some best =>
          obtain ⟨number, taken⟩ := best
          have taken_depicts : map.Depicts taken := by
            obtain ⟨-, rfl⟩ := Exploration.eq_of_takeBest took
            exact depicts
          simp only
          cases taken.nodes[number]? with
          | none => rfl
          | some node =>
              obtain ⟨later, later_depicts, expand_eq⟩ :=
                taken_depicts.expand probe goal number node.cell
              simp only [expand_eq, induction later_depicts]

/-- A search that reads the flags comes to the same end as one that reads the set. -/
theorem run_eq_explore (config : SearchConfig) (size : GridSize) (start goal : Cell)
    (probe : Probe) :
    run probe goal config.iterationCap.toNat 0
        (Exploration.empty.insert goal start none, (fresh size).mark start) =
      config.explore size start goal probe := by
  have depicts_empty : (fresh size).Depicts Exploration.empty := by
    intro cell inside
    rw [isSeen_fresh inside]
    exact CellSet.contains_empty.symm
  exact (depicts_empty.mark fun _ => Exploration.isSeen_insert).run _ _

end SeenMap

end GridWalk
