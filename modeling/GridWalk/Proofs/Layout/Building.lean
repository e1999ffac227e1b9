import GridWalk.Proofs.Layout.Transfer
import GridWalk.Proofs.World.Commands

/-!
# Layouts that are built in a world

The commands of a layout replace the grid, put up the walls one by one and place the mover. They
need not know the world they are given to: the fresh grid has no walls, so that each of them is put
up for the first time, and the start is an open cell of it. Whatever was there before, the world
afterwards is the one that the layout describes.
-/

namespace GridWalk

/-- Whether the event tells of a wall that appeared or disappeared. -/
def Event.isWallChange : Event → Bool
  | cellBlockChanged .. => true
  | _ => false

namespace World

variable {world : World} {cells : List Cell}

theorem apply_setBlocked_of_vacant {cell : Cell} (inside : world.size.contains cell = true)
    (vacant : world.walls.contains cell = false) :
    world.apply (.setBlocked cell true) =
      ⟨{ world with walls := world.walls.insert cell }, [.cellBlockChanged cell true], []⟩ := by
  rw [apply, inside, vacant]
  rfl

/-- Walls put up on different cells that were open are all there afterwards, and each of them is
told of. -/
theorem applyAll_setBlocked_of_vacant (nodup : cells.Nodup)
    (vacant : ∀ cell ∈ cells, world.size.contains cell = true ∧ world.walls.contains cell = false) :
    (world.applyAll (cells.map (.setBlocked · true))).events =
        cells.map (.cellBlockChanged · true) ∧
      ∃ walls, (world.applyAll (cells.map (.setBlocked · true))).world =
          { world with walls := walls } ∧
        ∀ other, walls.contains other = (decide (other ∈ cells) || world.walls.contains other) := by
  induction cells generalizing world with
  | nil => exact ⟨rfl, world.walls, rfl, by simp⟩
  | cons cell cells induction =>
      obtain ⟨cell_notMem, nodup⟩ := List.nodup_cons.mp nodup
      obtain ⟨⟨inside, cell_vacant⟩, vacant⟩ := List.forall_mem_cons.mp vacant
      let walled : World := { world with walls := world.walls.insert cell }
      have still_vacant : ∀ other ∈ cells,
          walled.size.contains other = true ∧ walled.walls.contains other = false := by
        intro other member
        have cell_ne : cell ≠ other := fun same => cell_notMem (same ▸ member)
        obtain ⟨other_inside, other_vacant⟩ := vacant other member
        exact ⟨other_inside, by simp [walled, cell_ne, other_vacant]⟩
      obtain ⟨events_eq, walls, world_eq, contains_eq⟩ := induction nodup still_vacant
      rw [List.map_cons, applyAll, apply_setBlocked_of_vacant inside cell_vacant, events_eq]
      refine ⟨rfl, walls, world_eq, fun other => ?_⟩
      rw [contains_eq, CellSet.contains_insert]
      by_cases same : cell = other
      · simp [same]
      · simp [Ne.symm same, beq_eq_false_iff_ne.mpr same]

theorem apply_placeMover_of_vacant {cell : Cell} (inside : world.size.contains cell = true)
    (vacant : world.walls.contains cell = false) :
    world.apply (.placeMover cell) =
      ⟨{ world with mover := world.mover.place cell }, [.moverPlaced cell], []⟩ := by
  rw [apply, placement, isBlocked_of_contains inside, inside, vacant]
  rfl

end World

namespace Layout

variable {layout : Layout}

/-- The cells of the walls, row by row. -/
def wallCells (layout : Layout) : List Cell :=
  layout.size.cells.filter layout.isBlocked

theorem mem_wallCells {cell : Cell} :
    cell ∈ layout.wallCells ↔ layout.size.contains cell = true ∧ layout.isBlocked cell = true := by
  rw [wallCells, List.mem_filter, GridSize.mem_cells]

theorem nodup_wallCells (layout : Layout) : layout.wallCells.Nodup :=
  layout.size.nodup_cells.filter layout.isBlocked

theorem length_wallCells (layout : Layout) : layout.wallCells.length = layout.blockedCount := by
  rw [wallCells, ← List.countP_eq_length_filter, blockedCount, CellMap.count_eq_countP]
  refine List.countP_congr fun cell member => ?_
  have inside := GridSize.mem_cells.mp member
  cases found : layout.walls.get? cell with
  | none => simp [CellMap.get?_eq_none_iff, inside] at found
  | some wall => simp [isBlocked, found]

/-- A start lies in the grid and on no wall. -/
theorem WellFormed.start_notMem_wallCells (wellFormed : layout.WellFormed) {cell : Cell}
    (started : layout.start = some cell) :
    layout.size.contains cell = true ∧ cell ∉ layout.wallCells := by
  have unblocked := wellFormed.start_open cell started
  refine ⟨contains_of_isBlocked_eq_false unblocked, fun member => ?_⟩
  rw [(mem_wallCells.mp member).2] at unblocked
  cases unblocked

/-- Before the mover is placed, the grid and its walls are those of the layout. -/
theorem WellFormed.applyAll_walls (wellFormed : layout.WellFormed) (world : World) :
    ∃ cell walls, layout.size.clamp world.mover.cell = some cell ∧
      (∀ other, walls.contains other = decide (other ∈ layout.wallCells)) ∧
      let reaction := world.applyAll (.configureGrid layout.size layout.tile ::
        layout.wallCells.map (.setBlocked · true))
      reaction.world = ⟨layout.size, layout.tile, walls, world.mover.place cell⟩ ∧
        reaction.events =
          .gridConfigured layout.size :: layout.wallCells.map (.cellBlockChanged · true) := by
  obtain ⟨cell, clamped, configured⟩ :=
    World.exists_apply_configureGrid wellFormed.nonempty world layout.tile
  let fresh : World := ⟨layout.size, layout.tile, .empty, world.mover.place cell⟩
  have vacant : ∀ other ∈ layout.wallCells,
      fresh.size.contains other = true ∧ fresh.walls.contains other = false := by
    intro other member
    exact ⟨(mem_wallCells.mp member).1, CellSet.contains_empty⟩
  obtain ⟨events_eq, walls, world_eq, contains_eq⟩ :=
    World.applyAll_setBlocked_of_vacant layout.nodup_wallCells vacant
  refine ⟨cell, walls, clamped, fun other => ?_, ?_, ?_⟩
  · rw [contains_eq, CellSet.contains_empty, Bool.or_false]
  · rw [World.applyAll, configured, world_eq]
  · rw [World.applyAll, configured, events_eq]
    rfl

/-- The commands of a well-formed layout make the same of every world, but for the direction that
the mover looks into and, where there is no start, the cell that it stands on. -/
theorem WellFormed.applyAll_commands (wellFormed : layout.WellFormed) (world : World) :
    ∃ cell walls, some cell = layout.start.or (layout.size.clamp world.mover.cell) ∧
      (∀ other, walls.contains other = decide (other ∈ layout.wallCells)) ∧
      (world.applyAll layout.commands).world =
        ⟨layout.size, layout.tile, walls, world.mover.place cell⟩ ∧
      (world.applyAll layout.commands).events =
        .gridConfigured layout.size :: layout.wallCells.map (.cellBlockChanged · true) ++
          layout.start.toList.map .moverPlaced := by
  obtain ⟨cell, walls, clamped, walls_eq, world_eq, events_eq⟩ := wellFormed.applyAll_walls world
  rw [commands, ← wallCells, World.world_applyAll_append, World.events_applyAll_append, world_eq,
    events_eq]
  cases started : layout.start with
  | none => exact ⟨cell, walls, clamped.symm, walls_eq, rfl, rfl⟩
  | some start =>
      obtain ⟨inside, notMem⟩ := wellFormed.start_notMem_wallCells started
      let built : World := ⟨layout.size, layout.tile, walls, world.mover.place cell⟩
      have vacant : built.walls.contains start = false := by
        rw [walls_eq, decide_eq_false notMem]
      have placed : built.apply (.placeMover start) = _ :=
        World.apply_placeMover_of_vacant inside vacant
      rw [Option.toList_some, List.map_singleton, World.applyAll, placed]
      exact ⟨start, walls, rfl, walls_eq, rfl, rfl⟩

/-- A reaction makes the world what the layout describes, whatever it was before. -/
structure Rebuilt (layout : Layout) (before : World) (reaction : Reaction) : Prop where
  size_eq : reaction.world.size = layout.size
  tile_eq : reaction.world.tile = layout.tile
  /-- Inside the grid and outside of it the same cells are blocked. -/
  isBlocked_eq : ∀ cell, reaction.world.isBlocked cell = layout.isBlocked cell
  at_rest : reaction.world.mover.frame = WalkFrame.rest
  /-- The mover stands on the start or, without one, where it was brought back into the grid. -/
  cell_eq : some reaction.world.mover.cell =
    layout.start.or (layout.size.clamp before.mover.cell)
  /-- No placement is refused. -/
  not_rejected : ∀ cell reason, .moverPlacementRejected cell reason ∉ reaction.events
  /-- As many walls appear as the layout has. -/
  count_eq : reaction.events.countP Event.isWallChange = layout.blockedCount

/-- The commands of a layout that can be made build it in every world, also in one that has had
walls and in one whose mover has left the grid. -/
theorem rebuilt_of_made (made : layout.Made) (world : World) :
    layout.Rebuilt world (world.applyAll layout.commands) := by
  obtain ⟨cell, walls, cell_eq, walls_eq, world_eq, events_eq⟩ :=
    made.wellFormed.applyAll_commands world
  refine ⟨by rw [world_eq], by rw [world_eq], fun other => ?_, by rw [world_eq]; rfl,
    by rw [world_eq]; exact cell_eq, fun other reason => ?_, ?_⟩
  · rw [world_eq]
    cases inside : layout.size.contains other with
    | false =>
        rw [World.isBlocked_of_outside inside, isBlocked, CellMap.get?_eq_none_iff.mpr inside]
        rfl
    | true =>
        rw [World.isBlocked_of_contains inside, walls_eq]
        simp [mem_wallCells, inside]
  · rw [events_eq]
    cases layout.start <;> simp
  · rw [events_eq, List.countP_append, List.countP_cons, List.countP_map]
    have all_walls : Event.isWallChange ∘ (.cellBlockChanged · true) = fun _ : Cell => true := rfl
    rw [all_walls, List.countP_true, length_wallCells]
    cases layout.start <;> rfl

/-- A world with a wall in the middle, whose mover was led out of the grid, becomes a row that has
its wall at the end. -/
theorem rebuilt_row :
    let document := Json.bytesOf "\x7b\"tile_length\":1.5,\"rows\":[\"..#\"]\x7d"
    let world := (World.initial.applyAll
      [.setBlocked ⟨1, 0⟩ true, .advanceMover .east ⟨90, 0⟩]).world
    ∃ layout, ofJson document = .ok layout ∧ layout.Made ∧
      layout.Rebuilt world (world.applyAll layout.commands) ∧
      (world.applyAll layout.commands).world.mover.cell = ⟨2, 0⟩ := by
  intro document world
  have read : ofJson document =
      .ok ⟨⟨3, 1⟩, ⟨⟨0x3fc00000⟩⟩, (CellMap.replicate ⟨3, 1⟩ false).set ⟨2, 0⟩ true, none⟩ := by
    decide +kernel
  have made := Made.read read
  exact ⟨_, read, made, rebuilt_of_made made world, by decide +kernel⟩

end Layout
end GridWalk
