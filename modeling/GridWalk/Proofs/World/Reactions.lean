import GridWalk.World.Basic

/-!
# The reactions of a world

Every way in which a world reacts to a command, with the guard that decides for it. What commands
keep, and what their events tell, is shown from these cases; the definitions need not be opened
again.
-/

namespace GridWalk
namespace World

variable {world : World} {cell : Cell}

theorem isBlocked_of_contains (inside : world.size.contains cell = true) :
    world.isBlocked cell = world.walls.contains cell := by
  simp [isBlocked, inside]

theorem isBlocked_of_outside (outside : world.size.contains cell = false) :
    world.isBlocked cell = true := by
  simp [isBlocked, outside]

/-- How a world reacts to a command. -/
inductive ApplyCase (world : World) : Command → Reaction → Prop where
  /-- The grid is replaced, and the mover rests on its cell nearest to where it stood. -/
  | configured {size : GridSize} {tile : Tile} {cell : Cell}
      (clamped : size.clamp world.mover.cell = some cell) :
      ApplyCase world (.configureGrid size tile)
        ⟨⟨size, tile, .empty, world.mover.place cell⟩, [.gridConfigured size], []⟩
  /-- A grid without cells is refused. -/
  | emptyGrid {size : GridSize} {tile : Tile} (empty : size.clamp world.mover.cell = none) :
      ApplyCase world (.configureGrid size tile) ⟨world, [], [.emptyGridIgnored size]⟩
  | wallBuilt {cell : Cell} (inside : world.size.contains cell = true)
      (vacant : world.walls.contains cell = false) :
      ApplyCase world (.setBlocked cell true)
        ⟨{ world with walls := world.walls.insert cell }, [.cellBlockChanged cell true], []⟩
  | wallRemoved {cell : Cell} (inside : world.size.contains cell = true)
      (wall : world.walls.contains cell = true) :
      ApplyCase world (.setBlocked cell false)
        ⟨{ world with walls := world.walls.erase cell }, [.cellBlockChanged cell false], []⟩
  /-- The cell lies outside the grid or is as it should be. -/
  | wallKept {cell : Cell} {blocked : Bool}
      (same : world.size.contains cell = true → world.walls.contains cell = blocked) :
      ApplyCase world (.setBlocked cell blocked) ⟨world, [], []⟩
  | placed {cell : Cell} (inside : world.size.contains cell = true)
      (vacant : world.walls.contains cell = false) :
      ApplyCase world (.placeMover cell)
        ⟨{ world with mover := world.mover.place cell }, [.moverPlaced cell], []⟩
  | placementOutside {cell : Cell} (outside : world.size.contains cell = false) :
      ApplyCase world (.placeMover cell)
        ⟨world, [.moverPlacementRejected cell .outOfBounds], []⟩
  | placementOnWall {cell : Cell} (inside : world.size.contains cell = true)
      (wall : world.walls.contains cell = true) :
      ApplyCase world (.placeMover cell) ⟨world, [.moverPlacementRejected cell .blocked], []⟩
  | stepped {direction : Direction} {target : Cell}
      (step : direction.step world.size world.mover.cell = some target)
      (vacant : world.isBlocked target = false) :
      ApplyCase world (.stepMover direction) (world.advance direction target)
  /-- The mover turns and stays. -/
  | bumped {direction : Direction}
      (stuck : ∀ target, direction.step world.size world.mover.cell = some target →
        world.isBlocked target = true) :
      ApplyCase world (.stepMover direction)
        ⟨{ world with mover := { world.mover with facing := direction } },
          [.moverBlocked direction world.mover.cell], [.stepBlocked direction world.mover.cell]⟩
  /-- No guard decides about a step of a planned route. -/
  | advanced {direction : Direction} {target : Cell} :
      ApplyCase world (.advanceMover direction target) (world.advance direction target)
  | settled :
      ApplyCase world .settleMover
        ⟨{ world with mover := world.mover.settle }, [.moverSettled world.mover.cell], []⟩

theorem apply_setBlocked_case (world : World) (cell : Cell) (blocked : Bool) :
    world.ApplyCase (.setBlocked cell blocked) (world.apply (.setBlocked cell blocked)) := by
  rw [apply]
  split
  · rename_i changes
    simp only [Bool.and_eq_true, bne_iff_ne, ne_eq] at changes
    obtain ⟨inside, differs⟩ := changes
    cases blocked with
    | true => exact .wallBuilt inside (by simpa using differs)
    | false => exact .wallRemoved inside (by simpa using differs)
  · rename_i stays
    refine .wallKept fun inside => ?_
    simpa [inside] using stays

theorem apply_placeMover_case (world : World) (cell : Cell) :
    world.ApplyCase (.placeMover cell) (world.apply (.placeMover cell)) := by
  rw [apply, placement]
  cases inside : world.size.contains cell with
  | false => exact .placementOutside inside
  | true =>
      rw [isBlocked_of_contains inside]
      cases wall : world.walls.contains cell with
      | true => exact .placementOnWall inside wall
      | false => exact .placed inside wall

theorem apply_case (world : World) (command : Command) :
    world.ApplyCase command (world.apply command) := by
  cases command with
  | configureGrid size tile =>
      rw [apply]
      cases clamped : size.clamp world.mover.cell with
      | none => exact .emptyGrid clamped
      | some cell => exact .configured clamped
  | setBlocked cell blocked => exact world.apply_setBlocked_case cell blocked
  | placeMover cell => exact world.apply_placeMover_case cell
  | stepMover direction =>
      rw [apply]
      cases entered : world.stepTarget direction with
      | some target =>
          obtain ⟨step, vacant⟩ := Option.filter_eq_some_iff.mp entered
          exact .stepped step (by simpa using vacant)
      | none =>
          refine .bumped fun target step => ?_
          simpa using Option.filter_eq_none_iff.mp entered target step
  | advanceMover direction target => exact .advanced
  | settleMover => exact .settled

end World
end GridWalk
