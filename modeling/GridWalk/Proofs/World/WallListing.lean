import GridWalk.Proofs.Grid.RowMajor
import GridWalk.Proofs.World.Commands

/-!
# The listing of the walls

A world keeps its walls as a sparse set. A plain way to keep them is a map with one flag for every
cell, in a block of memory that is made anew with every grid, and then the walls are listed by their
places in the block: the row of a wall is the quotient of its place and the number of columns, and
the column is the remainder. Both ways are one. A map that follows the commands of a world has the
world's size, blocks the cells that it blocks and lists the walls that it lists. As long as 32 bits
hold all the places, the listing is exact, and to put up its walls on a fresh grid is to copy the
world's.
-/

namespace GridWalk

/-! ## Numbers of cells -/

namespace GridSize

variable {size : GridSize} {cell : Cell}

/-- The cell of a number, absent if 32 bits do not hold the number. -/
def cellAt? (size : GridSize) (index : Nat) : Option Cell :=
  if index < UInt32.size then
    let columns := max size.columns 1
    some ⟨UInt32.ofNat index % columns, UInt32.ofNat index / columns⟩
  else
    none

/-- A grid that has a cell has a column. -/
theorem max_columns_one (inside : size.contains cell = true) :
    max size.columns 1 = size.columns := by
  obtain ⟨column_lt, -⟩ := contains_iff.mp inside
  change (if size.columns ≤ 1 then 1 else size.columns) = size.columns
  split
  · rename_i columns_le
    rw [UInt32.le_iff_toNat_le] at columns_le
    have one_eq : (1 : UInt32).toNat = 1 := rfl
    exact UInt32.toNat_inj.mp (by omega)
  · rfl

/-- Quotient and remainder give back the cell that was numbered. -/
theorem cellAt?_of_index? {index : Nat} (numbered : size.index? cell = some index) :
    size.cellAt? index = if index < UInt32.size then some cell else none := by
  obtain ⟨inside, index_eq⟩ := index?_eq_some_iff.mp numbered
  obtain ⟨column_lt, -⟩ := contains_iff.mp inside
  rw [cellAt?, max_columns_one inside]
  split
  · rename_i held
    have number_eq : (UInt32.ofNat index).toNat =
        cell.column.toNat + size.columns.toNat * cell.row.toNat := by
      rw [UInt32.toNat_ofNat_of_lt' held, index_eq, Nat.mul_comm, Nat.add_comm]
    have column_eq : UInt32.ofNat index % size.columns = cell.column := by
      rw [← UInt32.toNat_inj, UInt32.toNat_mod, number_eq, Nat.add_mul_mod_self_left,
        Nat.mod_eq_of_lt column_lt]
    have row_eq : UInt32.ofNat index / size.columns = cell.row := by
      rw [← UInt32.toNat_inj, UInt32.toNat_div, number_eq,
        Nat.add_mul_div_left _ _ (Nat.zero_lt_of_lt column_lt), Nat.div_eq_of_lt column_lt,
        Nat.zero_add]
    exact congrArg some (congrArg₂ Cell.mk column_eq row_eq)
  · rfl

end GridSize

/-! ## One flag for every cell -/

/-- The walls of a grid as a block of flags, with the size it was made for. -/
structure WallMap where
  /-- The size of the grid. -/
  size : GridSize
  /-- Whether a cell is a wall. -/
  flags : CellMap size Bool

namespace WallMap

/-- The map of a grid without walls. -/
def fresh (size : GridSize) : WallMap :=
  ⟨size, .replicate size false⟩

/-- Whether the cell cannot be entered; a cell without a flag cannot. -/
def isBlocked (map : WallMap) (cell : Cell) : Bool :=
  (map.flags.get? cell).getD true

/-- The map after a command. Commands to the mover do not concern it. -/
def follow (map : WallMap) : Command → WallMap
  | .configureGrid size _ => if size.isEmpty then map else fresh size
  | .setBlocked cell blocked => ⟨map.size, map.flags.set cell blocked⟩
  | .placeMover _ | .stepMover _ | .advanceMover _ _ | .settleMover => map

/-- The cells of the flags that are set, found from the places of the flags. -/
def listing (map : WallMap) : List Cell :=
  (map.flags.entries.toList.zipIdx.filter (·.1)).filterMap (map.size.cellAt? ·.2)

variable {map : WallMap} {world : World}

/-- The places lead back to the cells, and the order of the places is that of the cells. -/
theorem listing_eq_filter (map : WallMap) :
    map.listing = (map.size.cells.filter map.isBlocked).filter fun cell =>
      (map.size.index? cell).any (· < UInt32.size) := by
  have cellAt?_eq (cell : Cell) (mem : cell ∈ map.size.cells.filter map.isBlocked) :
      map.size.cellAt? ((map.size.index? cell).getD 0) =
        Option.guard (fun cell => (map.size.index? cell).any (· < UInt32.size)) cell := by
    have inside := GridSize.mem_cells.mp (List.mem_of_mem_filter mem)
    have numbered := GridSize.index?_of_contains inside
    simp [numbered, GridSize.cellAt?_of_index? numbered, Option.guard]
  calc map.listing
      = ((map.size.cells.filter map.isBlocked).map fun cell =>
          (map.isBlocked cell, (map.size.index? cell).getD 0)).filterMap
            (map.size.cellAt? ·.2) := by
        rw [listing, CellMap.zipIdx_entries _ true, List.filter_map]
        rfl
    _ = (map.size.cells.filter map.isBlocked).filterMap
          (Option.guard fun cell => (map.size.index? cell).any (· < UInt32.size)) := by
        rw [List.filterMap_map]
        exact List.filterMap_congr cellAt?_eq
    _ = _ := by rw [List.filterMap_eq_filter]

/-- A map and a world of the same size in which the same cells are blocked. -/
structure Depicts (map : WallMap) (world : World) : Prop where
  size_eq : map.size = world.size
  isBlocked_eq : map.isBlocked = world.isBlocked

/-- A map without walls depicts a world without walls. -/
theorem depicts_fresh (world : World) (bare : world.walls = .empty) :
    (fresh world.size).Depicts world where
  size_eq := rfl
  isBlocked_eq := by
    funext cell
    rw [world.isBlocked_of_bare bare, isBlocked, fresh, CellMap.get?_replicate]
    cases world.size.contains cell <;> rfl

/-- Setting a flag is asking the world for a wall or for an open cell. -/
theorem Depicts.set (depicts : map.Depicts world) (cell : Cell) (blocked : Bool) :
    (map.follow (.setBlocked cell blocked)).Depicts
      (world.apply (.setBlocked cell blocked)).world where
  size_eq := by
    obtain ⟨_, walls_eq⟩ := world.exists_walls_apply_setBlocked cell blocked
    rw [walls_eq]
    exact depicts.size_eq
  isBlocked_eq := by
    funext other
    have flag_eq : (map.follow (.setBlocked cell blocked)).isBlocked other =
        ((map.flags.set cell blocked).get? other).getD true := rfl
    rw [World.isBlocked_apply_setBlocked, flag_eq, CellMap.get?_set, ← depicts.size_eq,
      ← depicts.isBlocked_eq]
    split <;> rfl

/-- A map that depicts a world depicts it after every command. -/
theorem Depicts.follow (depicts : map.Depicts world) (command : Command) :
    (map.follow command).Depicts (world.apply command).world := by
  have reacted := world.apply_case command
  generalize reaction_eq : world.apply command = reaction at reacted
  cases reacted with
  | configured clamped =>
      rw [WallMap.follow, GridSize.isEmpty_eq_false_of_clamp clamped, if_neg Bool.false_ne_true]
      exact depicts_fresh ⟨_, _, .empty, _⟩ rfl
  | emptyGrid empty =>
      rw [WallMap.follow, if_pos (GridSize.clamp_eq_none_iff.mp empty)]
      exact depicts
  | wallBuilt | wallRemoved | wallKept =>
      rw [← reaction_eq]
      exact depicts.set _ _
  | placed | placementOutside | placementOnWall | stepped | bumped | advanced | settled =>
      exact ⟨depicts.size_eq, depicts.isBlocked_eq⟩

theorem Depicts.followAll (depicts : map.Depicts world) (commands : List Command) :
    (commands.foldl WallMap.follow map).Depicts (world.applyAll commands).world := by
  induction commands generalizing map world with
  | nil => exact depicts
  | cons command commands induction => exact induction (depicts.follow command)

end WallMap

/-! ## The walls of a world -/

namespace World

variable {world : World}

/-- A listing holds the blocked cells of the grid, each of them once, row by row. -/
structure ListsWalls (world : World) (listing : List Cell) : Prop where
  mem_iff : ∀ cell, cell ∈ listing ↔
    world.size.contains cell = true ∧ world.isBlocked cell = true
  nodup : listing.Nodup
  ascending : listing.Pairwise fun cell later =>
    cell.row < later.row ∨ cell.row = later.row ∧ cell.column < later.column

/-- The sparse walls come in the order in which the grid lists its cells. -/
theorem wallCells_eq_filter (world : World) :
    world.wallCells = (world.size.cells.filter world.isBlocked).filter fun cell =>
      (world.size.index? cell).any (· < UInt32.size) := by
  refine Cell.eq_of_rowMajor (world.walls.pairwise_toList.filter _)
    ((world.size.pairwise_cells.filter _).filter _) fun cell => ?_
  rw [wallCells, List.mem_filter, List.mem_filter, List.mem_filter, CellSet.mem_toList,
    GridSize.mem_cells]
  cases inside : world.size.contains cell with
  | true => simp [isBlocked_of_contains inside]
  | false => simp [GridSize.index?_eq_none_iff.mpr inside]

/-- As long as 32 bits hold the numbers of all cells, no wall is left out. -/
theorem listsWalls_wallCells (world : World) (small : world.size.cellCount ≤ UInt32.size) :
    world.ListsWalls world.wallCells := by
  have all_held : world.wallCells = world.size.cells.filter world.isBlocked := by
    rw [wallCells_eq_filter, List.filter_eq_self]
    intro cell mem
    have inside := GridSize.mem_cells.mp (List.mem_of_mem_filter mem)
    have numbered := GridSize.index?_of_contains inside
    have number_lt := Nat.lt_of_lt_of_le (GridSize.index?_lt_cellCount numbered) small
    simpa [numbered] using number_lt
  have ascending := world.size.pairwise_cells.filter world.isBlocked
  rw [all_held]
  refine ⟨fun cell => ?_, Cell.nodup_of_rowMajor ascending, ?_⟩
  · rw [List.mem_filter, GridSize.mem_cells]
  · exact ascending.imp Cell.rowMajor_eq_lt_iff.mp

/-- A fresh grid on which the walls of a world are put up, in any order, has the blocked cells of
that world, whatever world it replaces. -/
theorem rebuild_walls (some_cell : world.size.isEmpty = false) {listed : List Cell}
    (mem_iff : ∀ cell, cell ∈ listed ↔
      world.size.contains cell = true ∧ world.isBlocked cell = true)
    (before : World) (tile : Tile) :
    let rebuilt := (before.applyAll
      (.configureGrid world.size tile :: listed.map (.setBlocked · true))).world
    rebuilt.size = world.size ∧ rebuilt.isBlocked = world.isBlocked := by
  obtain ⟨nearest, -, configured⟩ := exists_apply_configureGrid some_cell before tile
  let bare : World := ⟨world.size, tile, .empty, before.mover.place nearest⟩
  obtain ⟨_, walls_eq⟩ := bare.exists_walls_applyAll_setBlocked listed true
  have size_eq := congrArg size walls_eq
  rw [applyAll, configured]
  refine ⟨size_eq, funext fun cell => ?_⟩
  have bare_blocked : bare.isBlocked cell = !world.size.contains cell :=
    isBlocked_of_bare rfl cell
  rw [bare.isBlocked_applyAll_setBlocked listed cell, bare_blocked]
  cases inside : world.size.contains cell with
  | true => simp [mem_iff, inside]
  | false => simp [isBlocked_of_outside inside]

/-- The listing of the walls is that of a map with one flag for every cell. As long as 32 bits can
number the cells, it is exact, and putting up what it lists on a fresh grid gives the same walls. -/
theorem wallListing_exact (commands : List Command) :
    let world := (initial.applyAll commands).world
    let map := commands.foldl WallMap.follow (.fresh .standard)
    (map.size = world.size ∧ map.isBlocked = world.isBlocked ∧ map.listing = world.wallCells) ∧
      (world.size.columns.toNat * world.size.rows.toNat ≤ UInt32.size →
        world.ListsWalls world.wallCells ∧
          ∀ (before : World) (tile : Tile) (listed : List Cell), listed.Perm world.wallCells →
            let rebuilt := (before.applyAll
              (.configureGrid world.size tile :: listed.map (.setBlocked · true))).world
            rebuilt.size = world.size ∧ rebuilt.isBlocked = world.isBlocked) := by
  intro world map
  have depicts_first : (WallMap.fresh .standard).Depicts initial :=
    WallMap.depicts_fresh initial rfl
  have depicts : map.Depicts world := depicts_first.followAll commands
  have some_cell : world.size.isEmpty = false := isEmpty_size_applyAll rfl commands
  refine ⟨⟨depicts.size_eq, depicts.isBlocked_eq, ?_⟩, fun small => ?_⟩
  · rw [map.listing_eq_filter, depicts.size_eq, depicts.isBlocked_eq, wallCells_eq_filter]
  · rw [← GridSize.cellCount_eq] at small
    have lists := world.listsWalls_wallCells small
    refine ⟨lists, fun before tile listed reordered => ?_⟩
    exact rebuild_walls some_cell (fun cell => reordered.mem_iff.trans (lists.mem_iff cell))
      before tile

/-- Of three walls one is taken away again. The two that are left, put up in the other order on a
world that has had walls, block the same cells. -/
theorem wallListing_exact_square :
    let commands : List Command := [.configureGrid ⟨3, 3⟩ .standard, .setBlocked ⟨0, 2⟩ true,
      .setBlocked ⟨1, 1⟩ true, .setBlocked ⟨2, 0⟩ true, .setBlocked ⟨1, 1⟩ false]
    let world := (initial.applyAll commands).world
    let before := (initial.apply (.setBlocked ⟨1, 1⟩ true)).world
    world.size.columns.toNat * world.size.rows.toNat ≤ UInt32.size ∧
      world.wallCells = [⟨2, 0⟩, ⟨0, 2⟩] ∧
      [⟨0, 2⟩, ⟨2, 0⟩].Perm world.wallCells ∧
      (before.applyAll [.configureGrid ⟨3, 3⟩ .standard, .setBlocked ⟨0, 2⟩ true,
        .setBlocked ⟨2, 0⟩ true]).world.isBlocked = world.isBlocked := by
  intro commands world before
  have small : world.size.columns.toNat * world.size.rows.toNat ≤ UInt32.size := by decide +kernel
  have listed : world.wallCells = [⟨2, 0⟩, ⟨0, 2⟩] := by decide +kernel
  have reordered : [⟨0, 2⟩, ⟨2, 0⟩].Perm world.wallCells := by
    rw [listed]
    exact .swap _ _ _
  obtain ⟨-, listing_of_small⟩ := wallListing_exact commands
  obtain ⟨-, rebuild⟩ := listing_of_small small
  exact ⟨small, listed, reordered, (rebuild before .standard _ reordered).2⟩

end World
end GridWalk
