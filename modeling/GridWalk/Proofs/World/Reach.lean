import GridWalk.Proofs.Grid.RowMajor
import GridWalk.Proofs.World.Distances

/-!
# The reach of a distance field

The cells that have a distance, and their number. The main statement is about the field of a world
whose cells 32 bits can count. Whatever its walls, a cell has a distance if and only if steps over
open cells lead there from an open origin, and the distances are the lengths of shortest routes.
-/

namespace GridWalk

namespace DistanceField

variable {size : GridSize} {cell : Cell} {field : DistanceField size}

/-- The cells that have a distance. -/
def reach (field : DistanceField size) : Set Cell :=
  {cell | ∃ steps, field.distance? cell = some steps}

theorem mem_reach_iff : cell ∈ field.reach ↔ field.label cell < unreached := by
  simp only [reach, Set.mem_ofPred_eq, distance?_eq_some_iff, exists_eq_left']

theorem contains_of_mem_reach (reached : cell ∈ field.reach) : size.contains cell = true := by
  obtain ⟨steps, known⟩ := reached
  by_contra outside
  rw [Bool.not_eq_true] at outside
  rw [distance?, CellMap.get?_eq_none_iff.mpr outside] at known
  cases known

theorem ncard_reach_eq_length {cells : List Cell} (nodup : cells.Nodup)
    (mem_iff : ∀ cell, cell ∈ cells ↔ cell ∈ field.reach) : field.reach.ncard = cells.length := by
  have reach_eq : field.reach = (cells.toFinset : Set Cell) := by
    ext cell
    rw [List.coe_toFinset, Set.mem_ofPred_eq, mem_iff]
  rw [reach_eq, Set.ncard_coe_finset, List.toFinset_card_of_nodup nodup]

/-- As many distances are counted as cells have one. -/
theorem reachableCount_eq_ncard (field : DistanceField size) :
    field.reachableCount = field.reach.ncard := by
  let listed := size.cells.filter fun cell => (field.distance? cell).isSome
  have counted : field.reachableCount = listed.length := by
    rw [reachableCount, CellMap.count_eq_countP, List.countP_eq_length_filter]
    congr 2
    funext cell
    rw [distance?, Option.isSome_map, Option.isSome_filter]
  have mem_listed (cell : Cell) : cell ∈ listed ↔ cell ∈ field.reach := by
    rw [List.mem_filter, GridSize.mem_cells, Option.isSome_iff_exists]
    exact ⟨And.right, fun reached => ⟨contains_of_mem_reach reached, reached⟩⟩
  rw [counted, ncard_reach_eq_length (size.nodup_cells.filter _) mem_listed]

end DistanceField

namespace World

open DistanceField

/-- The distance field of a world is exact: the cells with a distance are those that steps over open
cells lead to from an open origin, it is the least number of such steps, and they are counted. -/
theorem distanceField_exact (world : World) (origin : Cell)
    (small : world.size.cellCount < UInt32.size) :
    let field := world.distanceField origin
    let vacant (cell : Cell) := world.size.contains cell = true ∧ world.isBlocked cell = false
    (∀ cell steps, field.distance? cell = some steps ↔ vacant origin ∧ vacant cell ∧
      IsLeast (routeLengths world.size world.isBlocked origin cell) steps) ∧
    (∀ cell, field.distance? cell = none ↔ ¬ (vacant origin ∧ vacant cell ∧
      cell ∈ reachableCells world.size world.isBlocked origin)) ∧
    field.reachableCount = {cell | ∃ steps, field.distance? cell = some steps}.ncard := by
  intro field vacant
  have distance?_eq (cell : Cell) (steps : Nat) : field.distance? cell = some steps ↔
      vacant origin ∧ vacant cell ∧
        IsLeast (routeLengths world.size world.isBlocked origin cell) steps := by
    by_cases origin_vacant : vacant origin
    · obtain ⟨inside, unblocked⟩ := origin_vacant
      have measured : field.distance? cell = some steps ↔ _ :=
        distance?_build_of_small small inside unblocked
      rw [measured]
      constructor
      · intro isLeast
        exact ⟨⟨inside, unblocked⟩, ⟨contains_of_mem_routeLengths inside isLeast.1,
          vacant_of_mem_routeLengths unblocked isLeast.1⟩, isLeast⟩
      · rintro ⟨-, -, isLeast⟩
        exact isLeast
    · have closed : world.size.contains origin = false ∨ world.isBlocked origin = true := by
        simpa only [vacant, not_and_or, Bool.not_eq_true, Bool.not_eq_false] using origin_vacant
      have missing : field.distance? cell = none := distance?_build_of_closed closed
      rw [missing]
      exact iff_of_false (Option.some_ne_none steps).symm fun all => origin_vacant all.1
  refine ⟨distance?_eq, fun cell => ?_, field.reachableCount_eq_ncard⟩
  rw [Option.eq_none_iff_forall_ne_some, ← not_exists, not_congr, mem_reachableCells_iff]
  simp only [distance?_eq, exists_and_left]

/-- Around a wall it is six steps to a cell two columns away, and all cells but the two of the wall
have a distance. -/
theorem distanceField_around_wall :
    let walls := (CellSet.empty.insert ⟨1, 0⟩).insert ⟨1, 1⟩
    let world : World := ⟨⟨3, 3⟩, .standard, walls, .initial⟩
    let field := world.distanceField ⟨0, 0⟩
    world.size.cellCount < UInt32.size ∧
      IsLeast (routeLengths world.size world.isBlocked ⟨0, 0⟩ ⟨2, 0⟩) 6 ∧
      field.distance? ⟨1, 1⟩ = none ∧
      {cell | ∃ steps, field.distance? cell = some steps}.ncard = 7 := by
  intro walls world field
  have small : world.size.cellCount < UInt32.size := by decide +kernel
  obtain ⟨distance?_eq, missing_iff, counted⟩ := world.distanceField_exact ⟨0, 0⟩ small
  have known : field.distance? ⟨2, 0⟩ = some 6 := by decide +kernel
  have seven : field.reachableCount = 7 := by decide +kernel
  have walled : world.isBlocked ⟨1, 1⟩ = true := by decide +kernel
  refine ⟨small, ((distance?_eq _ 6).mp known).2.2, (missing_iff _).mpr ?_, counted ▸ seven⟩
  rintro ⟨-, ⟨-, unblocked⟩, -⟩
  rw [walled] at unblocked
  cases unblocked

end World
end GridWalk
