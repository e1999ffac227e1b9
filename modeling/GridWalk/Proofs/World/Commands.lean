import GridWalk.Layout.Basic
import GridWalk.Proofs.World.Reactions

/-!
# Commands one after another

What sequences of commands make of a world, in particular those that build a layout: a grid replaces
the one there was, walls are put up on it, and a mover at rest stays at rest.
-/

namespace GridWalk
namespace World

variable {world : World} {direction : Direction} {target : Cell}

theorem world_applyAll_append (world : World) (commands later : List Command) :
    (world.applyAll (commands ++ later)).world =
      ((world.applyAll commands).world.applyAll later).world := by
  induction commands generalizing world with
  | nil => rfl
  | cons command commands induction => exact induction (world.apply command).world

theorem events_applyAll_append (world : World) (commands later : List Command) :
    (world.applyAll (commands ++ later)).events =
      (world.applyAll commands).events ++
        ((world.applyAll commands).world.applyAll later).events := by
  induction commands generalizing world with
  | nil => rfl
  | cons command commands induction =>
      rw [List.cons_append, applyAll, applyAll, induction, List.append_assoc]

/-- No command leaves a world without a cell. -/
theorem isEmpty_size_apply (some_cell : world.size.isEmpty = false) (command : Command) :
    (world.apply command).world.size.isEmpty = false := by
  have reacted := world.apply_case command
  generalize world.apply command = reaction at reacted
  cases reacted with
  | configured clamped => exact GridSize.isEmpty_eq_false_of_clamp clamped
  | _ => exact some_cell

theorem isEmpty_size_applyAll (some_cell : world.size.isEmpty = false) (commands : List Command) :
    (world.applyAll commands).world.size.isEmpty = false := by
  induction commands generalizing world with
  | nil => exact some_cell
  | cons command commands induction => exact induction (isEmpty_size_apply some_cell command)

/-- A grid with cells replaces the one there was, whatever stood on it. -/
theorem exists_apply_configureGrid {size : GridSize} (some_cell : size.isEmpty = false)
    (world : World) (tile : Tile) :
    ∃ cell, size.clamp world.mover.cell = some cell ∧
      world.apply (.configureGrid size tile) =
        ⟨⟨size, tile, .empty, world.mover.place cell⟩, [.gridConfigured size], []⟩ := by
  obtain ⟨cell, clamped⟩ : ∃ cell, size.clamp world.mover.cell = some cell := by
    rw [GridSize.clamp, some_cell]
    exact ⟨_, rfl⟩
  refine ⟨cell, clamped, ?_⟩
  rw [apply, clamped]

/-- Without walls only what lies outside the grid is blocked. -/
theorem isBlocked_of_bare (bare : world.walls = .empty) (cell : Cell) :
    world.isBlocked cell = !world.size.contains cell := by
  rw [isBlocked, bare, CellSet.contains_empty, Bool.or_false]

/-- Only the walls change when one is put up or taken away. -/
theorem exists_walls_apply_setBlocked (world : World) (cell : Cell) (blocked : Bool) :
    ∃ walls, (world.apply (.setBlocked cell blocked)).world = { world with walls := walls } := by
  have reacted := world.apply_case (.setBlocked cell blocked)
  generalize world.apply (.setBlocked cell blocked) = reaction at reacted
  cases reacted with
  | wallBuilt | wallRemoved | wallKept => exact ⟨_, rfl⟩

/-- A cell of the grid becomes blocked or open as it is asked, and no other cell changes. -/
theorem isBlocked_apply_setBlocked (world : World) (cell : Cell) (blocked : Bool) (other : Cell) :
    (world.apply (.setBlocked cell blocked)).world.isBlocked other =
      if cell = other ∧ world.size.contains cell = true then blocked
      else world.isBlocked other := by
  have reacted := world.apply_case (.setBlocked cell blocked)
  generalize world.apply (.setBlocked cell blocked) = reaction at reacted
  cases reacted with
  | wallBuilt inside vacant =>
      by_cases same : cell = other
      · simp [isBlocked, ← same, inside]
      · simp [isBlocked, same, beq_eq_false_iff_ne.mpr same]
  | wallRemoved inside wall =>
      by_cases same : cell = other
      · simp [isBlocked, ← same, inside]
      · simp [isBlocked, same, bne_iff_ne.mpr same]
  | wallKept same =>
      split
      · rename_i asked
        obtain ⟨rfl, inside⟩ := asked
        rw [isBlocked_of_contains inside, same inside]
      · rfl

theorem exists_walls_applyAll_setBlocked (world : World) (cells : List Cell) (blocked : Bool) :
    ∃ walls, (world.applyAll (cells.map (.setBlocked · blocked))).world =
      { world with walls := walls } := by
  induction cells generalizing world with
  | nil => exact ⟨world.walls, rfl⟩
  | cons cell cells induction =>
      obtain ⟨_, first_eq⟩ := world.exists_walls_apply_setBlocked cell blocked
      obtain ⟨walls, walls_eq⟩ := induction (world.apply (.setBlocked cell blocked)).world
      refine ⟨walls, walls_eq.trans ?_⟩
      rw [first_eq]

/-- Walls that are put up are blocked afterwards, whether they were there before or lie outside the
grid, and no other cell is blocked by them. -/
theorem isBlocked_applyAll_setBlocked (world : World) (cells : List Cell) (other : Cell) :
    (world.applyAll (cells.map (.setBlocked · true))).world.isBlocked other =
      (decide (other ∈ cells) || world.isBlocked other) := by
  induction cells generalizing world with
  | nil => rfl
  | cons cell cells induction =>
      have first : (world.apply (.setBlocked cell true)).world.isBlocked other =
          (decide (other = cell) || world.isBlocked other) := by
        rw [isBlocked_apply_setBlocked]
        by_cases same : other = cell
        · cases inside : world.size.contains cell with
          | true => simp [same]
          | false => simp [same, isBlocked_of_outside inside]
        · simp [same, Ne.symm same]
      rw [List.map_cons, applyAll, induction, first]
      simp only [List.mem_cons, Bool.decide_or]
      ac_rfl

theorem commands_plain (size : GridSize) :
    (Layout.plain size).commands = [.configureGrid size .standard] := by
  have no_wall : size.cells.filter (Layout.plain size).isBlocked = [] := by
    rw [List.filter_eq_nil_iff]
    intro cell member
    rw [Layout.isBlocked, Layout.plain, CellMap.get?_replicate,
      if_pos (GridSize.mem_cells.mp member), Option.getD_some]
    exact Bool.false_ne_true
  have sizes : (Layout.plain size).size = size := rfl
  rw [Layout.commands, sizes, no_wall]
  rfl

/-- A layout without walls and without a start leaves the mover at the origin. -/
theorem applyAll_plain {size : GridSize} (some_cell : size.isEmpty = false) :
    (initial.applyAll (Layout.plain size).commands).world =
      ⟨size, .standard, .empty, .initial⟩ := by
  have min_zero (word : UInt32) : min 0 word = 0 := if_pos UInt32.zero_le
  have clamped : size.clamp Cell.origin = some Cell.origin := by
    rw [GridSize.clamp, some_cell, if_neg Bool.false_ne_true]
    simp only [Cell.origin, min_zero]
  have mover_eq : initial.mover.cell = Cell.origin := rfl
  rw [commands_plain, applyAll, apply, mover_eq, clamped]
  rfl

end World
end GridWalk
