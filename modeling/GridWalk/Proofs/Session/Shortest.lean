import GridWalk.Proofs.Grid.Taxicab
import GridWalk.Proofs.Session.Walk
import GridWalk.Proofs.World.Distances

/-!
# The distance of a request that was given up

A request that runs out of budget is recorded with the breadth-first distance from the mover to its
target. The search and the distance field agree on what a route is but for the cell it starts from:
the search never asks about it, while a field has no distances from a blocked cell. A mover stands
on a blocked cell only as long as it has not left the cell that it started from.
-/

namespace GridWalk
namespace Session

variable {session : Session} {target : Cell} {cap : UInt32} {shortest : Option Nat} {least : Nat}

/-- The record of a request that ran out of budget holds what the distance field says, and the mover
stands on the grid. -/
theorem shortest_eq (recorded : (session.request target).records =
      [.request target (.unreachable (.iterationCap cap)) shortest]) :
    session.world.size.contains session.world.mover.cell = true ∧
      (session.world.distanceField session.world.mover.cell).distance? target = shortest := by
  have answer := session.moveReply_case target
  rw [request_eq] at recorded
  generalize session.moveReply target = reply at answer recorded
  cases answer with
  | ignored moving policy => simp at recorded
  | @unreachable reason notes allowed failed =>
      simp only [List.cons.injEq, Record.request.injEq, MoveOutcome.unreachable.injEq, true_and,
        and_true] at recorded
      obtain ⟨rfl, measured⟩ := recorded
      obtain ⟨mover_inside, -⟩ := SearchConfig.inside_of_findPath failed (by simp)
      exact ⟨mover_inside, measured⟩
  | alreadyThere allowed found => simp at recorded
  | started allowed found some_step => simp at recorded

/-- Where the shortest route is too long for a distance, a request that ran out of budget is
recorded without one. -/
theorem records_of_unreached
    (failed : (session.moveReply target).outcome = .unreachable (.iterationCap cap))
    (inside : session.world.size.contains session.world.mover.cell = true)
    (vacant : session.world.isBlocked session.world.mover.cell = false)
    (isLeast : IsLeast (routeLengths session.world.size session.world.isBlocked
      session.world.mover.cell target) least)
    (far : DistanceField.unreached ≤ least) :
    (session.request target).records =
      [.request target (.unreachable (.iterationCap cap)) none] := by
  have measured : (session.measure target (.unreachable (.iterationCap cap))).1 = none := by
    change (session.world.distanceField session.world.mover.cell).distance? target = none
    cases built : (session.world.distanceField session.world.mover.cell).distance? target with
    | none => rfl
    | some count =>
        obtain ⟨count_isLeast, bound⟩ := (DistanceField.distance?_build inside vacant).mp built
        have same := count_isLeast.unique isLeast
        omega
  rw [request_eq, failed, measured]

/-- A session on a plain grid starts at the origin. -/
theorem start_plain {size : GridSize} (some_cell : size.isEmpty = false) (settings : Settings) :
    (start (Layout.plain size) settings).session =
      ⟨⟨size, .standard, .empty, .initial⟩, .initial,
        { movement := settings.movement, search := settings.search }⟩ := by
  have world_eq := world_start (Layout.plain size) settings
  rw [World.applyAll_plain some_cell] at world_eq
  rw [← world_eq]
  rfl

/-- Whenever a request in a session runs out of budget, it is recorded with the least number of
steps to the target, unless the mover has not left a blocked cell that it started from. -/
theorem shortest_of_iterationCap (layout : Layout) (settings : Settings) (actions : List Action)
    (target : Cell) (cap : UInt32) (shortest : Option Nat)
    (recorded : (((start layout settings).session.performAll actions).session.perform
      (.moveTo target)).records = [.request target (.unreachable (.iterationCap cap)) shortest]) :
    let first := (start layout settings).session.world.mover.cell
    let world := ((start layout settings).session.performAll actions).session.world
    let lengths := routeLengths world.size world.isBlocked world.mover.cell target
    (world.isBlocked world.mover.cell = false →
      (∀ steps, shortest = some steps ↔
        IsLeast lengths steps ∧ steps < DistanceField.unreached) ∧
      (world.size.cellCount < UInt32.size →
        (∀ steps, shortest = some steps ↔ IsLeast lengths steps) ∧
          (shortest = none ↔ lengths = ∅))) ∧
    (world.isBlocked world.mover.cell = true → shortest = none ∧ world.mover.cell = first) := by
  intro first world lengths
  obtain ⟨inside, rfl⟩ := shortest_eq recorded
  constructor
  · intro vacant
    refine ⟨fun steps => DistanceField.distance?_build inside vacant, ?_⟩
    intro small
    exact ⟨fun steps => DistanceField.distance?_build_of_small small inside vacant,
      DistanceField.distance?_build_eq_none_iff small inside vacant⟩
  · intro blocked
    refine ⟨DistanceField.distance?_build_of_closed (Or.inr blocked), ?_⟩
    have walks := walks_performAll (onCourse_start layout settings) actions
    rcases walks.walk.cell_eq_or_vacant with same | vacant
    · exact same
    · rw [← walks.isBlocked_eq] at vacant
      exact absurd blocked (by simp [world, vacant])

/-- A mover that has gone east along a row is told how far the rest of it is. -/
theorem shortest_along_row :
    let session := ((start (Layout.plain ⟨4, 1⟩) ⟨⟨1⟩, {}⟩).session.performAll [.key .east]).session
    (session.perform (.moveTo ⟨3, 0⟩)).records =
        [.request ⟨3, 0⟩ (.unreachable (.iterationCap 1)) (some 2)] ∧
      IsLeast (routeLengths session.world.size session.world.isBlocked session.world.mover.cell
        ⟨3, 0⟩) 2 := by
  intro session
  have recorded : (session.perform (.moveTo ⟨3, 0⟩)).records =
      [.request ⟨3, 0⟩ (.unreachable (.iterationCap 1)) (some 2)] := by decide +kernel
  have vacant : session.world.isBlocked session.world.mover.cell = false := by decide +kernel
  have measured := shortest_of_iterationCap (Layout.plain ⟨4, 1⟩) ⟨⟨1⟩, {}⟩ [.key .east] ⟨3, 0⟩ 1
    (some 2) recorded
  exact ⟨recorded, (((measured.1 vacant).1 2).mp rfl).1⟩

/-- A mover that stands on a wall, on the first cell of a map without a start, may take two steps to
its target; and from corner to corner of two rows as long as rows can be, there are as many steps as
mark an unreached cell. -/
theorem no_shortest_despite_route :
    (∃ layout, Layout.ofJson (Json.bytesOf "\x7b\"rows\":[\"#..\"]\x7d") = .ok layout ∧
      let session := (start layout ⟨⟨1⟩, {}⟩).session
      (session.perform (.moveTo ⟨2, 0⟩)).records =
          [.request ⟨2, 0⟩ (.unreachable (.iterationCap 1)) none] ∧
        2 ∈ routeLengths session.world.size session.world.isBlocked session.world.mover.cell
          ⟨2, 0⟩) ∧
    let session := (start (Layout.plain ⟨4294967295, 2⟩) ⟨⟨1⟩, {}⟩).session
    (session.perform (.moveTo ⟨4294967294, 1⟩)).records =
        [.request ⟨4294967294, 1⟩ (.unreachable (.iterationCap 1)) none] ∧
      IsLeast (routeLengths session.world.size session.world.isBlocked session.world.mover.cell
        ⟨4294967294, 1⟩) 4294967295 := by
  constructor
  · let plain := Layout.plain ⟨3, 1⟩
    refine ⟨{ plain with walls := plain.walls.set Cell.origin true }, by decide +kernel,
      by decide +kernel, [⟨1, 0⟩, ⟨2, 0⟩], ⟨by decide +kernel, rfl⟩, rfl⟩
  · intro session
    have session_eq : session = _ := start_plain (by decide) ⟨⟨1⟩, {}⟩
    rw [session_eq]
    have isLeast : IsLeast (routeLengths ⟨4294967295, 2⟩
        (World.isBlocked ⟨⟨4294967295, 2⟩, .standard, .empty, .initial⟩) Cell.origin
          ⟨4294967294, 1⟩) 4294967295 := by
      refine isLeast_steps (by decide) (by decide) ?_
      intro cell inside
      rw [World.isBlocked, inside, CellSet.contains_empty]
      rfl
    exact ⟨records_of_unreached (by decide +kernel) (by decide) (by decide +kernel) isLeast
      (by decide), isLeast⟩

end Session
end GridWalk
