import GridWalk.Proofs.Grid.OpenStep

/-!
# Steps on a grid without walls

A step changes one coordinate by one, so it leads one step nearer to any cell or one step farther
from it. Hence no route is shorter than the columns plus the rows between its ends, and where
nothing is blocked there is one that is no longer.
-/

namespace GridWalk

variable {size : GridSize} {isBlocked : Cell → Bool} {start goal cell next : Cell} {count : Nat}

/-! ## Steps in numbers -/

theorem add_one_eq_iff {word higher : UInt32} :
    (¬ word + 1 = 0 ∧ word + 1 = higher) ↔ higher.toNat = word.toNat + 1 := by
  have word_lt := word.toNat_lt
  have higher_lt := higher.toNat_lt
  simp only [← UInt32.toNat_inj, UInt32.toNat_add, UInt32.reduceToNat]
  omega

theorem sub_one_eq_iff {word lower : UInt32} :
    (¬ word = 0 ∧ word - 1 = lower) ↔ lower.toNat + 1 = word.toNat := by
  have word_lt := word.toNat_lt
  have lower_lt := lower.toNat_lt
  simp only [← UInt32.toNat_inj, UInt32.toNat_sub, UInt32.reduceToNat]
  omega

namespace Direction

/-- One coordinate of the neighbour is one more or one less, the other one the same. -/
def Leads (direction : Direction) (cell next : Cell) : Prop :=
  match direction with
  | north => next.column = cell.column ∧ next.row.toNat + 1 = cell.row.toNat
  | east => next.column.toNat = cell.column.toNat + 1 ∧ next.row = cell.row
  | south => next.column = cell.column ∧ next.row.toNat = cell.row.toNat + 1
  | west => next.column.toNat + 1 = cell.column.toNat ∧ next.row = cell.row

theorem next_eq_some_iff {direction : Direction} :
    direction.next cell = some next ↔ direction.Leads cell next := by
  obtain ⟨column, row⟩ := cell
  obtain ⟨nextColumn, nextRow⟩ := next
  cases direction <;>
    simp only [Direction.next, Leads, Option.ite_none_left_eq_some, Option.some.injEq,
      Cell.mk.injEq, ← add_one_eq_iff, ← sub_one_eq_iff] <;>
    tauto

theorem step_eq_some_iff {direction : Direction} :
    direction.step size cell = some next ↔
      direction.Leads cell next ∧ size.contains next = true := by
  rw [step, Option.filter_eq_some_iff, next_eq_some_iff]

end Direction

/-! ## Nearer and farther neighbours -/

namespace Cell

theorem gap_eq_zero_iff {left right : UInt32} : gap left right = 0 ↔ left = right := by
  rw [← UInt32.toNat_inj, gap]
  omega

theorem gap_comm (left right : UInt32) : gap left right = gap right left :=
  Nat.add_comm _ _

@[simp]
theorem steps_self (cell : Cell) : cell.steps cell = 0 := by
  rw [steps, gap_eq_zero_iff.mpr rfl, gap_eq_zero_iff.mpr rfl]

theorem gap_of_adjacent (start : UInt32) {left right : UInt32} (adjacent : gap left right = 1) :
    gap start right = gap start left + 1 ∨ gap start right + 1 = gap start left := by
  simp only [gap] at adjacent ⊢
  omega

/-- Only one neighbour of a coordinate is nearer to the start. -/
theorem eq_of_nearer (start : UInt32) {left middle right : UInt32}
    (left_adjacent : gap left middle = 1) (right_adjacent : gap middle right = 1)
    (left_nearer : gap start left + 1 = gap start middle)
    (right_nearer : gap start right + 1 = gap start middle) : left = right := by
  rw [← UInt32.toNat_inj]
  simp only [gap] at *
  omega

/-- Of two coordinates of neighbours, one is the same and the other one off by one. -/
theorem steps_eq_one_iff {cell other : Cell} :
    cell.steps other = 1 ↔
      cell.column = other.column ∧ gap cell.row other.row = 1 ∨
      gap cell.column other.column = 1 ∧ cell.row = other.row := by
  rw [steps, Nat.add_eq_one_iff, gap_eq_zero_iff, gap_eq_zero_iff]

/-- A neighbour is one step nearer to the start or one step farther from it. -/
theorem steps_of_adjacent (start : Cell) {cell next : Cell} (adjacent : cell.steps next = 1) :
    start.steps next = start.steps cell + 1 ∨ start.steps next + 1 = start.steps cell := by
  simp only [steps]
  rcases steps_eq_one_iff.mp adjacent with ⟨same, row_adjacent⟩ | ⟨column_adjacent, same⟩
  · have row_gap := gap_of_adjacent start.row row_adjacent
    rw [same]
    omega
  · have column_gap := gap_of_adjacent start.column column_adjacent
    rw [same]
    omega

/-- Two neighbours of a cell that are both nearer to the start span a square with it, whose fourth
corner is nearer still. -/
theorem exists_corner {start before cell next : Cell} (before_inside : size.contains before = true)
    (next_inside : size.contains next = true) (apart : before ≠ next)
    (entered : before.steps cell = 1) (left : cell.steps next = 1)
    (before_nearer : start.steps before + 1 = start.steps cell)
    (next_nearer : start.steps next + 1 = start.steps cell) :
    ∃ corner, size.contains corner = true ∧ before.steps corner = 1 ∧ corner.steps next = 1 ∧
      start.steps corner + 2 = start.steps cell ∧
      gap corner.column cell.column = 1 ∧ gap corner.row cell.row = 1 := by
  obtain ⟨column, row⟩ := cell
  obtain ⟨beforeColumn, beforeRow⟩ := before
  obtain ⟨nextColumn, nextRow⟩ := next
  simp only [steps_eq_one_iff] at entered left ⊢
  simp only [steps] at before_nearer next_nearer ⊢
  simp only [GridSize.contains_iff] at before_inside next_inside ⊢
  rcases entered with ⟨rfl, before_adjacent⟩ | ⟨before_adjacent, rfl⟩
  · rcases left with ⟨rfl, next_adjacent⟩ | ⟨next_adjacent, rfl⟩
    · have same := eq_of_nearer start.row before_adjacent next_adjacent (by omega) (by omega)
      exact (apart (by rw [same])).elim
    · refine ⟨⟨nextColumn, beforeRow⟩, ⟨next_inside.1, before_inside.2⟩,
        Or.inr ⟨next_adjacent, rfl⟩, Or.inl ⟨rfl, before_adjacent⟩, ?_, ?_, before_adjacent⟩
      · dsimp only
        omega
      · rw [gap_comm, next_adjacent]
  · rcases left with ⟨rfl, next_adjacent⟩ | ⟨next_adjacent, rfl⟩
    · refine ⟨⟨beforeColumn, nextRow⟩, ⟨before_inside.1, next_inside.2⟩,
        Or.inl ⟨rfl, next_adjacent⟩, Or.inr ⟨before_adjacent, rfl⟩, ?_, before_adjacent, ?_⟩
      · dsimp only
        omega
      · rw [gap_comm, next_adjacent]
    · have same := eq_of_nearer start.column before_adjacent next_adjacent (by omega) (by omega)
      exact (apart (by rw [same])).elim

end Cell

/-- A step goes to a neighbour within the grid. -/
theorem exists_step_iff :
    (∃ direction : Direction, direction.step size cell = some next) ↔
      size.contains next = true ∧ cell.steps next = 1 := by
  simp only [Direction.step_eq_some_iff, Cell.steps_eq_one_iff]
  constructor
  · rintro ⟨direction, leads, inside⟩
    refine ⟨inside, ?_⟩
    cases direction with
    | north | south =>
        obtain ⟨same, row_eq⟩ := leads
        refine Or.inl ⟨same.symm, ?_⟩
        rw [Cell.gap]
        omega
    | east | west =>
        obtain ⟨column_eq, same⟩ := leads
        refine Or.inr ⟨?_, same.symm⟩
        rw [Cell.gap]
        omega
  · rintro ⟨inside, ⟨same, row_adjacent⟩ | ⟨column_adjacent, same⟩⟩
    · rw [Cell.gap] at row_adjacent
      rcases Nat.lt_or_ge cell.row.toNat next.row.toNat with south | north
      · exact ⟨.south, ⟨same.symm, by omega⟩, inside⟩
      · exact ⟨.north, ⟨same.symm, by omega⟩, inside⟩
    · rw [Cell.gap] at column_adjacent
      rcases Nat.lt_or_ge cell.column.toNat next.column.toNat with east | west
      · exact ⟨.east, ⟨by omega, same.symm⟩, inside⟩
      · exact ⟨.west, ⟨by omega, same.symm⟩, inside⟩

/-! ## Shortest routes -/

theorem steps_le_add_one (start : Cell) (step : OpenStep size isBlocked cell next) :
    start.steps next ≤ start.steps cell + 1 := by
  have adjacent := (exists_step_iff.mp step.1).2
  rcases Cell.steps_of_adjacent start adjacent with farther | nearer <;> omega

/-- No route has fewer steps than there are columns and rows between its ends. -/
theorem steps_le_of_mem_routeLengths (member : count ∈ routeLengths size isBlocked start goal) :
    start.steps goal ≤ count := by
  induction count generalizing goal with
  | zero =>
      obtain rfl := zero_mem_routeLengths.mp member
      exact (Cell.steps_self start).le
  | succ count induction =>
      obtain ⟨cell, shorter, step⟩ := succ_mem_routeLengths.mp member
      have step_le := steps_le_add_one start step
      have shorter_le := induction shorter
      omega

theorem eq_of_steps_eq_zero (together : start.steps goal = 0) : start = goal := by
  obtain ⟨startColumn, startRow⟩ := start
  obtain ⟨goalColumn, goalRow⟩ := goal
  simp only [Cell.steps, Cell.gap] at together
  simp only [Cell.mk.injEq, ← UInt32.toNat_inj]
  omega

theorem exists_toNat_eq (number : Nat) (small : number < UInt32.size) :
    ∃ word : UInt32, word.toNat = number :=
  ⟨UInt32.ofNat number, UInt32.toNat_ofNat_of_lt' small⟩

/-- The last step to a cell of the grid other than the start may come from one that is nearer. -/
theorem exists_nearer (start_inside : size.contains start = true)
    (goal_inside : size.contains goal = true) (apart : start.steps goal = count + 1) :
    ∃ cell, size.contains cell = true ∧ start.steps cell = count ∧
      ∃ direction : Direction, direction.step size cell = some goal := by
  simp only [Direction.step_eq_some_iff, and_iff_left goal_inside]
  rw [GridSize.contains_iff] at start_inside goal_inside
  simp only [GridSize.contains_iff, Cell.steps, Cell.gap] at apart ⊢
  have columns_lt : size.columns.toNat < UInt32.size := size.columns.toNat_lt
  have rows_lt : size.rows.toNat < UInt32.size := size.rows.toNat_lt
  rcases Nat.lt_trichotomy start.column.toNat goal.column.toNat with west | same | east
  · obtain ⟨column, column_eq⟩ := exists_toNat_eq (goal.column.toNat - 1) (by omega)
    refine ⟨⟨column, goal.row⟩, ⟨?_, goal_inside.2⟩, ?_, .east, ?_, rfl⟩ <;> dsimp only <;> omega
  · rcases Nat.lt_trichotomy start.row.toNat goal.row.toNat with north | level | south
    · obtain ⟨row, row_eq⟩ := exists_toNat_eq (goal.row.toNat - 1) (by omega)
      refine ⟨⟨goal.column, row⟩, ⟨goal_inside.1, ?_⟩, ?_, .south, rfl, ?_⟩ <;> dsimp only <;> omega
    · omega
    · obtain ⟨row, row_eq⟩ := exists_toNat_eq (goal.row.toNat + 1) (by omega)
      refine ⟨⟨goal.column, row⟩, ⟨goal_inside.1, ?_⟩, ?_, .north, rfl, ?_⟩ <;> dsimp only <;> omega
  · obtain ⟨column, column_eq⟩ := exists_toNat_eq (goal.column.toNat + 1) (by omega)
    refine ⟨⟨column, goal.row⟩, ⟨?_, goal_inside.2⟩, ?_, .west, ?_, rfl⟩ <;> dsimp only <;> omega

/-- Where nothing is blocked, a shortest route has as many steps as there are columns and rows
between its ends. -/
theorem isLeast_steps (start_inside : size.contains start = true)
    (goal_inside : size.contains goal = true)
    (vacant : ∀ cell, size.contains cell = true → isBlocked cell = false) :
    IsLeast (routeLengths size isBlocked start goal) (start.steps goal) := by
  refine ⟨?_, fun count member => steps_le_of_mem_routeLengths member⟩
  generalize steps_eq : start.steps goal = count
  induction count generalizing goal with
  | zero => exact zero_mem_routeLengths.mpr (eq_of_steps_eq_zero steps_eq)
  | succ count induction =>
      obtain ⟨cell, inside, nearer, stepped⟩ := exists_nearer start_inside goal_inside steps_eq
      have shorter := induction inside nearer
      exact succ_mem_routeLengths.mpr ⟨cell, shorter, stepped, vacant goal goal_inside⟩

end GridWalk
