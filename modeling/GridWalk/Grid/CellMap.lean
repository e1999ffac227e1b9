import GridWalk.Grid.Size

/-!
# Dense maps over a grid

One entry for each cell of a grid, stored in row-major order. The number of entries is part of the
type. The main statements say what `get?` answers after each operation, so that the storage need not
be looked at again.
-/

namespace GridWalk

universe u

/-- One entry for every cell of a grid. -/
structure CellMap (size : GridSize) (α : Type u) where
  /-- The entries in row-major order. -/
  entries : Vector α size.cellCount
  deriving DecidableEq, Repr

namespace CellMap

variable {size : GridSize} {α : Type u}

/-- The map with the same entry everywhere. -/
def replicate (size : GridSize) (entry : α) : CellMap size α :=
  ⟨Vector.replicate size.cellCount entry⟩

/-- The entry of a cell, absent outside the grid. -/
def get? (map : CellMap size α) (cell : Cell) : Option α :=
  (size.index? cell).bind (map.entries[·]?)

/-- The map with another entry for one cell; cells outside the grid have none to change. -/
def set (map : CellMap size α) (cell : Cell) (entry : α) : CellMap size α :=
  match size.index? cell with
  | some index => ⟨map.entries.setIfInBounds index entry⟩
  | none => map

/-- How many entries satisfy a condition. -/
def count (condition : α → Bool) (map : CellMap size α) : Nat :=
  map.entries.countP condition

/-- The sum of a number for each entry. -/
def total (weight : α → Nat) (map : CellMap size α) : Nat :=
  map.entries.toList.foldr (fun entry sum => weight entry + sum) 0

theorem get?_eq_none_iff {map : CellMap size α} {cell : Cell} :
    map.get? cell = none ↔ size.contains cell = false := by
  constructor
  · intro missing
    cases numbered : size.index? cell with
    | none => exact GridSize.index?_eq_none_iff.mp numbered
    | some index =>
        have bound := GridSize.index?_lt_cellCount numbered
        simp [get?, numbered, bound] at missing
  · intro outside
    simp [get?, GridSize.index?_eq_none_iff.mpr outside]

@[simp]
theorem get?_replicate {entry : α} {cell : Cell} :
    (replicate size entry).get? cell = if size.contains cell then some entry else none := by
  cases numbered : size.index? cell with
  | none => simp [get?, numbered, GridSize.index?_eq_none_iff.mp numbered]
  | some index =>
      have bound := GridSize.index?_lt_cellCount numbered
      have inside := (GridSize.index?_eq_some_iff.mp numbered).1
      simp [get?, numbered, inside, replicate, bound]

theorem get?_set {map : CellMap size α} {cell other : Cell} {entry : α} :
    (map.set cell entry).get? other =
      if cell = other ∧ size.contains cell = true then some entry else map.get? other := by
  cases numbered : size.index? cell with
  | none => simp [set, numbered, GridSize.index?_eq_none_iff.mp numbered]
  | some index =>
      have inside := (GridSize.index?_eq_some_iff.mp numbered).1
      have bound := GridSize.index?_lt_cellCount numbered
      by_cases same : cell = other
      · subst same
        simp [get?, set, numbered, inside, bound]
      · cases otherNumbered : size.index? other with
        | none => simp [get?, otherNumbered, same]
        | some otherIndex =>
            have index_ne : index ≠ otherIndex := by
              rintro rfl
              exact same (GridSize.index?_injective numbered otherNumbered)
            simp [get?, set, numbered, otherNumbered, same, index_ne]

/-- Two maps that answer alike for every cell are the same. -/
theorem ext_get? {left right : CellMap size α} (same : ∀ cell, left.get? cell = right.get? cell) :
    left = right := by
  have entries_eq : left.entries = right.entries := by
    apply Vector.ext
    intro index bound
    obtain ⟨cell, numbered⟩ := GridSize.exists_index?_eq_some bound
    simpa [get?, numbered, bound] using same cell
  exact congrArg mk entries_eq

theorem foldr_list_set (weight : α → Nat) (entry : α) (entries : List α) {index : Nat}
    (bound : index < entries.length) :
    (entries.set index entry).foldr (fun entry sum => weight entry + sum) 0 +
        weight entries[index] =
      entries.foldr (fun entry sum => weight entry + sum) 0 + weight entry := by
  induction entries generalizing index with
  | nil => cases bound
  | cons first entries induction =>
      cases index with
      | zero =>
          simp only [List.set_cons_zero, List.foldr_cons, List.getElem_cons_zero]
          omega
      | succ index =>
          have rest := induction (Nat.lt_of_succ_lt_succ bound)
          simp only [List.set_cons_succ, List.foldr_cons, List.getElem_cons_succ]
          omega

/-- Another entry for one cell changes the sum by the difference of the two. -/
theorem total_set (weight : α → Nat) (entry : α) {map : CellMap size α} {cell : Cell} {old : α}
    (present : map.get? cell = some old) :
    (map.set cell entry).total weight + weight old = map.total weight + weight entry := by
  cases numbered : size.index? cell with
  | none => simp [get?, numbered] at present
  | some index =>
      have bound := GridSize.index?_lt_cellCount numbered
      have old_eq : map.entries[index] = old := by simpa [get?, numbered, bound] using present
      have listed : (map.set cell entry).entries.toList = map.entries.toList.set index entry := by
        simp only [set, numbered]
        exact Vector.toList_setIfInBounds
      have listed_bound : index < map.entries.toList.length := by rwa [Vector.length_toList]
      rw [total, listed, total, ← foldr_list_set weight entry _ listed_bound,
        Vector.getElem_toList, old_eq]

end CellMap

end GridWalk
