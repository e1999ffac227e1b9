import GridWalk.Layout.Scatter
import GridWalk.Proofs.Layout.Rows

/-!
# Scattered walls

The cells that are to stay open keep what they had before the first draw, and the origin is one of
them, so that scattered layouts are well formed. Every other cell has the draw of its row-major
number, whichever cells stay open: a draw is spent on each cell.
-/

namespace GridWalk

/-- Whether a number lies between zero, which may have a sign, and one. -/
def Binary64.IsChance (number : Binary64) : Prop :=
  ∃ negative units, number.value = .finite negative units ∧ units ≤ BinaryFormat.double.one ∧
    (negative = true → units = 0)

/-- A number states a chance exactly if it lies between zero and one. -/
theorem Chance.exists_ofDensity?_iff {density : Binary64} :
    (∃ chance, Chance.ofDensity? density = some chance) ↔ density.IsChance := by
  rw [Chance.ofDensity?, Binary64.IsChance]
  cases density.value with
  | nan => simp
  | infinite negative => simp
  | finite negative units =>
      have legal_iff : (∃ sign count, BinaryValue.finite negative units = .finite sign count ∧
          count ≤ BinaryFormat.double.one ∧ (sign = true → count = 0)) ↔
            units ≤ BinaryFormat.double.one ∧ (negative = true → units = 0) := by
        constructor
        · rintro ⟨_, _, ⟨⟩, legal⟩
          exact legal
        · intro legal
          exact ⟨negative, units, rfl, legal⟩
      rw [legal_iff]
      generalize BinaryFormat.double.one = one
      dsimp only
      split
      · rename_i is_one
        exact iff_of_true ⟨certain, rfl⟩ (by simp [is_one])
      split
      · rename_i is_less
        refine iff_of_true ⟨_, rfl⟩ ⟨by omega, fun is_negative => ?_⟩
        simpa [is_negative] using is_less
      · rename_i not_one not_less
        refine iff_of_false (by simp) fun legal => ?_
        cases negative with
        | true => exact not_less (Or.inl (legal.2 rfl))
        | false =>
            have units_lt := Nat.lt_of_le_of_ne legal.1 (by simpa using not_one)
            exact not_less (Or.inr ⟨units_lt, rfl⟩)

namespace Layout

variable {γ : Type} {draw : γ → Bool × γ} {source : γ} {size : GridSize} {cell : Cell}
  {staysOpen : Cell → Bool}

/-! ## Cells that stay open -/

theorem get?_scatterCell_of_untouched {state : CellMap size Bool × γ} {drawn : Cell}
    (untouched : drawn = cell → staysOpen cell = true) :
    (scatterCell draw staysOpen state drawn).1.get? cell = state.1.get? cell := by
  by_cases drawn_kept : staysOpen drawn = true
  · simp [scatterCell, drawn_kept]
  · have drawn_ne : drawn ≠ cell := by
      rintro rfl
      exact drawn_kept (untouched rfl)
    simp [scatterCell, drawn_kept, CellMap.get?_set, drawn_ne]

/-- A cell that stays open or is not drawn for keeps what it had. -/
theorem get?_foldl_scatterCell_of_untouched {state : CellMap size Bool × γ} {cells : List Cell}
    (untouched : cell ∈ cells → staysOpen cell = true) :
    (cells.foldl (scatterCell draw staysOpen) state).1.get? cell = state.1.get? cell := by
  induction cells generalizing state with
  | nil => rfl
  | cons drawn cells induction =>
      have drawn_untouched : drawn = cell → staysOpen cell = true :=
        fun same => untouched (same ▸ List.mem_cons_self)
      rw [List.foldl_cons, induction fun member => untouched (List.mem_cons_of_mem drawn member),
        get?_scatterCell_of_untouched drawn_untouched]

theorem get?_scatterWalls_of_staysOpen (inside : size.contains cell = true)
    (kept : staysOpen cell = true) :
    (scatterWalls draw source size staysOpen).get? cell = some false := by
  rw [scatterWalls, get?_foldl_scatterCell_of_untouched fun _ => kept]
  simp [inside]

section WellFormed

variable (nonempty : size.isEmpty = false)

include nonempty

theorem wellFormed_plain : (plain size).WellFormed where
  nonempty := nonempty
  measured := Tile.isPositiveFinite_standard
  start_open cell started := by simp [plain] at started

theorem wellFormed_scatter {keepClear : List Cell} :
    (scatter draw source size keepClear).WellFormed where
  nonempty := nonempty
  measured := Tile.isPositiveFinite_standard
  start_open cell started := by
    obtain rfl : Cell.origin = cell := by simpa [scatter] using started
    have inside : size.contains Cell.origin = true :=
      GridSize.contains_iff.mpr (GridSize.isEmpty_eq_false_iff.mp nonempty)
    exact isBlocked_eq_false_iff.mpr (get?_scatterWalls_of_staysOpen inside (by simp))

theorem wellFormed_scattered {density : Binary64} {seed : UInt64} {keepClear : List Cell}
    {layout : Layout} (made : scattered size density seed keepClear = .ok layout) :
    layout.WellFormed := by
  unfold scattered at made
  split at made
  · cases made
  · obtain rfl := Except.ok.inj made
    exact wellFormed_scatter nonempty

end WellFormed

/-! ## Cells with a draw -/

/-- Whether the draw is a hit that comes behind so many others from a source. -/
def hitAt (draw : γ → Bool × γ) (source : γ) : Nat → Bool
  | 0 => (draw source).1
  | number + 1 => hitAt draw (draw source).2 number

/-- A cell that may be a wall has the draw of its place among the cells that are drawn for. -/
theorem get?_foldl_scatterCell {walls : CellMap size Bool} {cells : List Cell} {index : Nat}
    (distinct : cells.Nodup) (inside : size.contains cell = true)
    (walled : staysOpen cell = false) (place : cells[index]? = some cell) :
    (cells.foldl (scatterCell draw staysOpen) (walls, source)).1.get? cell =
      some (hitAt draw source index) := by
  induction cells generalizing walls source index with
  | nil => cases place
  | cons drawn cells induction =>
      obtain ⟨drawn_notMem, distinct⟩ := List.nodup_cons.mp distinct
      rw [List.foldl_cons]
      cases index with
      | zero =>
          obtain rfl : drawn = cell := by simpa using place
          rw [get?_foldl_scatterCell_of_untouched fun member => (drawn_notMem member).elim]
          simp [scatterCell, walled, CellMap.get?_set, inside, hitAt]
      | succ index => exact induction distinct (by simpa using place)

/-- A wall that is not kept away rests on the source and the row-major number of its cell alone. -/
theorem get?_scatterWalls (walled : staysOpen cell = false) :
    (scatterWalls draw source size staysOpen).get? cell =
      (size.index? cell).map (hitAt draw source) := by
  cases numbered : size.index? cell with
  | none => exact CellMap.get?_eq_none_iff.mpr (GridSize.index?_eq_none_iff.mp numbered)
  | some index =>
      exact get?_foldl_scatterCell size.nodup_cells (GridSize.index?_eq_some_iff.mp numbered).1
        walled (GridSize.getElem?_cells_of_index? numbered)

/-! ## Two scatterings from one source -/

variable {keepClear otherClear : List Cell}

theorem isBlocked_scatter_of_clear (kept : cell ∈ keepClear ∨ cell = Cell.origin)
    (inside : size.contains cell = true) :
    (scatter draw source size keepClear).isBlocked cell = false :=
  isBlocked_eq_false_iff.mpr (get?_scatterWalls_of_staysOpen inside (by simpa [or_comm] using kept))

theorem isBlocked_scatter_of_drawn (notMem : cell ∉ keepClear) (cell_ne : cell ≠ Cell.origin) :
    (scatter draw source size keepClear).isBlocked cell =
      ((size.index? cell).map (hitAt draw source)).getD true := by
  have walled : (decide (cell = Cell.origin) || keepClear.contains cell) = false := by
    simp [notMem, cell_ne]
  exact congrArg (Option.getD · true) (get?_scatterWalls walled)

/-- Two layouts that start at the origin have the same walls but for the origin and the cells of two
lists, of which the first are open in the first layout and the second in the second. -/
structure AgreeOffClear (size : GridSize) (keepClear otherClear : List Cell)
    (layout other : Layout) : Prop where
  size_eq : layout.size = size
  other_size_eq : other.size = size
  same : ∀ cell, cell ∉ keepClear → cell ∉ otherClear → cell ≠ Cell.origin →
    layout.isBlocked cell = other.isBlocked cell
  /-- Nothing is a wall that is to stay open, as far as it lies in the grid. -/
  clear : ∀ cell, cell ∈ keepClear ∨ cell = Cell.origin → size.contains cell = true →
    layout.isBlocked cell = false
  other_clear : ∀ cell, cell ∈ otherClear ∨ cell = Cell.origin → size.contains cell = true →
    other.isBlocked cell = false
  start_eq : layout.start = some Cell.origin
  other_start_eq : other.start = some Cell.origin

theorem agreeOffClear_scatter (draw : γ → Bool × γ) (source : γ) (size : GridSize)
    (keepClear otherClear : List Cell) :
    AgreeOffClear size keepClear otherClear (scatter draw source size keepClear)
      (scatter draw source size otherClear) where
  size_eq := rfl
  other_size_eq := rfl
  same cell notMem other_notMem cell_ne := by
    rw [isBlocked_scatter_of_drawn notMem cell_ne, isBlocked_scatter_of_drawn other_notMem cell_ne]
  clear _ kept inside := isBlocked_scatter_of_clear kept inside
  other_clear _ kept inside := isBlocked_scatter_of_clear kept inside
  start_eq := rfl
  other_start_eq := rfl

/-- Two scatterings by one source of draws have the same walls but for the cells that are kept clear
in either. For every density the generator with any seed is such a source. -/
theorem scattered_agree_off_clear (size : GridSize) (keepClear otherClear : List Cell) :
    (∀ (γ : Type) (draw : γ → Bool × γ) (source : γ),
      AgreeOffClear size keepClear otherClear (scatter draw source size keepClear)
        (scatter draw source size otherClear)) ∧
    ∀ (density : Binary64) (seed : UInt64), density.IsChance → ∃ layout other,
      scattered size density seed keepClear = .ok layout ∧
      scattered size density seed otherClear = .ok other ∧
      AgreeOffClear size keepClear otherClear layout other := by
  refine ⟨fun γ draw source => agreeOffClear_scatter draw source size keepClear otherClear, ?_⟩
  intro density seed is_chance
  obtain ⟨chance, chance_eq⟩ := Chance.exists_ofDensity?_iff.mpr is_chance
  refine ⟨_, _, ?_, ?_, agreeOffClear_scatter chance.draw (.ofSeed seed) size _ _⟩
  · rw [scattered, chance_eq]
  · rw [scattered, chance_eq]

/-- Half of the cells are walls. A cell that is kept clear in one of two layouts is a wall in the
other; the next row is the same. -/
theorem scattered_agree_off_corner :
    let density : Binary64 := ⟨0x3fe0000000000000⟩
    density.IsChance ∧ ∃ layout other,
      scattered ⟨3, 2⟩ density 3 [⟨2, 0⟩, ⟨2, 0⟩, ⟨9, 9⟩] = .ok layout ∧
      scattered ⟨3, 2⟩ density 3 [] = .ok other ∧
      AgreeOffClear ⟨3, 2⟩ [⟨2, 0⟩, ⟨2, 0⟩, ⟨9, 9⟩] [] layout other ∧
      other.isBlocked ⟨2, 0⟩ = true ∧ layout.isBlocked ⟨0, 1⟩ = true := by
  intro density
  have is_chance : density.IsChance :=
    ⟨false, Nat.pow 2 1073, by decide +kernel, by decide +kernel, Bool.noConfusion⟩
  obtain ⟨layout, other, layout_eq, other_eq, agree⟩ :=
    (scattered_agree_off_clear ⟨3, 2⟩ [⟨2, 0⟩, ⟨2, 0⟩, ⟨9, 9⟩] []).2 density 3 is_chance
  have corner : (scattered ⟨3, 2⟩ density 3 []).map (·.isBlocked ⟨2, 0⟩) = .ok true := by
    decide +kernel
  have next_row : (scattered ⟨3, 2⟩ density 3 [⟨2, 0⟩, ⟨2, 0⟩, ⟨9, 9⟩]).map
      (·.isBlocked ⟨0, 1⟩) = .ok true := by
    decide +kernel
  rw [other_eq] at corner
  rw [layout_eq] at next_row
  exact ⟨is_chance, layout, other, layout_eq, other_eq, agree, Except.ok.inj corner,
    Except.ok.inj next_row⟩

end Layout

end GridWalk
