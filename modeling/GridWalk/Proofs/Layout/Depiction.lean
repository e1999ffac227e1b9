import GridWalk.Proofs.Layout.Rows

/-!
# Maps and what they depict

Which map files are maps: rows of one length that fill a grid, with no other symbols than those of
tiles and with one start at most. These are the files that are accepted, and the layout that is read
is the one they depict, symbol by symbol.
-/

namespace GridWalk

/-- The symbols that stand for tiles. -/
def MapSymbol.all : List Char := [openCell, wall, start]

namespace MapFile

/-- The symbol of a cell, if the rows reach it. -/
def symbolAt? (file : MapFile) (cell : Cell) : Option Char :=
  (file.rows[cell.row.toNat]?).bind (·.toList[cell.column.toNat]?)

/-- A map file is a map of a grid: a tile has a length, the rows fill the grid, and their symbols
are known, that of the start being used once at most. -/
structure IsMap (file : MapFile) (size : GridSize) : Prop where
  measured : file.tileLength.isPositiveFinite = true
  nonempty : size.isEmpty = false
  rows_length : file.rows.length = size.rows.toNat
  row_length : ∀ row ∈ file.rows, row.length = size.columns.toNat
  known : ∀ row ∈ file.rows, ∀ symbol ∈ row.toList, symbol ∈ MapSymbol.all
  one_start : (file.rows.flatMap String.toList).count MapSymbol.start ≤ 1

end MapFile

namespace Layout

/-- A layout is what a map file depicts: the walls are where their symbols are, and the start is
where its symbol is. Outside the grid all is blocked. -/
structure Depicts (layout : Layout) (file : MapFile) : Prop where
  tile_eq : layout.tile = ⟨file.tileLength⟩
  isBlocked_iff : ∀ cell, layout.isBlocked cell = true ↔
    file.symbolAt? cell = some MapSymbol.wall ∨ layout.size.contains cell = false
  start_iff : ∀ cell, layout.start = some cell ↔ file.symbolAt? cell = some MapSymbol.start

variable {layout other draft next result : Layout} {cell : Cell} {symbol : Char}
  {tiles : List (Cell × Char)} {file : MapFile} {size : GridSize}

theorem get?_walls (inside : layout.size.contains cell = true) :
    layout.walls.get? cell = some (layout.isBlocked cell) := by
  rw [isBlocked]
  cases found : layout.walls.get? cell with
  | none => simp [CellMap.get?_eq_none_iff, inside] at found
  | some wall => rfl

/-- No two layouts of one size are depicted alike. -/
theorem Depicts.eq (depicts : layout.Depicts file) (other_depicts : other.Depicts file)
    (size_eq : layout.size = other.size) : layout = other := by
  refine eq_of_agrees size_eq (depicts.tile_eq.trans other_depicts.tile_eq.symm) fun cell => ?_
  refine ⟨?_, (depicts.start_iff cell).trans (other_depicts.start_iff cell).symm⟩
  cases inside : layout.size.contains cell with
  | false =>
      have other_outside : other.size.contains cell = false := size_eq ▸ inside
      rw [CellMap.get?_eq_none_iff.mpr inside, CellMap.get?_eq_none_iff.mpr other_outside]
  | true =>
      have other_inside : other.size.contains cell = true := size_eq ▸ inside
      have blocked_iff := (depicts.isBlocked_iff cell).trans
        (size_eq ▸ (other_depicts.isBlocked_iff cell).symm)
      rw [get?_walls inside, get?_walls other_inside, Bool.eq_iff_iff.mpr blocked_iff]

/-! ## Tiles that can be laid -/

theorem exists_layTile_iff :
    (∃ next, draft.layTile cell symbol = .ok next) ↔
      symbol ∈ MapSymbol.all ∧ (symbol = MapSymbol.start → draft.start = none) := by
  constructor
  · rintro ⟨next, laid⟩
    obtain ⟨rfl, -⟩ | ⟨rfl, -⟩ | ⟨rfl, no_start, -⟩ := layTile_eq_ok_iff.mp laid
    · exact ⟨by decide, fun is_start => absurd is_start (by decide)⟩
    · exact ⟨by decide, fun is_start => absurd is_start (by decide)⟩
    · exact ⟨by decide, fun _ => no_start⟩
  · rintro ⟨known, only_start⟩
    simp only [MapSymbol.all, List.mem_cons, List.not_mem_nil, or_false] at known
    rcases known with rfl | rfl | rfl
    · exact ⟨_, layTile_eq_ok_iff.mpr (Or.inl ⟨rfl, rfl⟩)⟩
    · exact ⟨_, layTile_eq_ok_iff.mpr (Or.inr (Or.inl ⟨rfl, rfl⟩))⟩
    · exact ⟨_, layTile_eq_ok_iff.mpr (Or.inr (Or.inr ⟨rfl, only_start rfl, rfl⟩))⟩

/-- The starts of a draft, counted: none or one. -/
def startCount (draft : Layout) : Nat :=
  draft.start.toList.length

theorem startCount_eq_zero_iff : draft.startCount = 0 ↔ draft.start = none := by
  cases started : draft.start <;> simp [startCount, started]

theorem startCount_le_one (draft : Layout) : draft.startCount ≤ 1 := by
  cases started : draft.start <;> simp [startCount, started]

theorem startCount_layTile (laid : draft.layTile cell symbol = .ok next) :
    next.startCount = draft.startCount + [symbol].count MapSymbol.start := by
  obtain ⟨rfl, rfl⟩ | ⟨rfl, rfl⟩ | ⟨rfl, no_start, rfl⟩ := layTile_eq_ok_iff.mp laid
  · rfl
  · rfl
  · rw [startCount_eq_zero_iff.mpr no_start]
    rfl

/-- Tiles can be laid if their symbols are known and no second start is among them. -/
theorem exists_layAll_iff :
    (∃ result, draft.layAll tiles = .ok result) ↔
      (∀ symbol ∈ tiles.map Prod.snd, symbol ∈ MapSymbol.all) ∧
        draft.startCount + (tiles.map Prod.snd).count MapSymbol.start ≤ 1 := by
  induction tiles generalizing draft with
  | nil => exact iff_of_true ⟨draft, rfl⟩ ⟨by simp, draft.startCount_le_one⟩
  | cons tile tiles induction =>
      obtain ⟨cell, symbol⟩ := tile
      have count_eq : ((symbol :: tiles.map Prod.snd).count MapSymbol.start) =
          [symbol].count MapSymbol.start + (tiles.map Prod.snd).count MapSymbol.start := by
        rw [← List.count_append, List.singleton_append]
      simp only [layAll_cons, List.map_cons, List.forall_mem_cons, count_eq]
      constructor
      · rintro ⟨result, next, laid, rest⟩
        obtain ⟨rest_known, rest_count⟩ := induction.mp ⟨result, rest⟩
        rw [startCount_layTile laid] at rest_count
        exact ⟨⟨(exists_layTile_iff.mp ⟨next, laid⟩).1, rest_known⟩, by omega⟩
      · rintro ⟨⟨known, rest_known⟩, count_le⟩
        have only_start (is_start : symbol = MapSymbol.start) : draft.start = none := by
          rw [is_start, List.count_singleton_self] at count_le
          exact startCount_eq_zero_iff.mp (by omega)
        obtain ⟨next, laid⟩ := exists_layTile_iff.mpr ⟨known, only_start⟩
        have rest_count : next.startCount + (tiles.map Prod.snd).count MapSymbol.start ≤ 1 := by
          rw [startCount_layTile laid]
          omega
        obtain ⟨result, rest⟩ := induction.mpr ⟨rest_known, rest_count⟩
        exact ⟨result, next, laid, rest⟩

/-! ## The tiles of a map -/

theorem map_snd_tilesFrom (row : Nat) (rows : List String) :
    (tilesFrom row rows).map Prod.snd = rows.flatMap String.toList := by
  have row_eq (number : Nat) (symbols : List Char) :
      (rowTiles number 0 symbols).map Prod.snd = symbols := by
    rw [rowTiles, List.map_map]
    exact List.zipIdx_map_fst 0 symbols
  rw [tilesFrom, List.map_flatMap]
  simp only [row_eq]
  rw [← List.flatMap_map (f := Prod.fst), List.zipIdx_map_fst]

/-- The tiles of rows that fill a grid are the symbols of its cells. -/
theorem mem_tilesFrom_zero_iff (rows_length : file.rows.length = size.rows.toNat)
    (row_length : ∀ row ∈ file.rows, row.length = size.columns.toNat) :
    (cell, symbol) ∈ tilesFrom 0 file.rows ↔ file.symbolAt? cell = some symbol := by
  rw [mem_tilesFrom_zero, MapFile.symbolAt?]
  constructor
  · rintro ⟨row, symbols, symbols_eq, column, symbol_eq, rfl⟩
    have row_lt := (List.getElem?_eq_some_iff.mp symbols_eq).1
    have column_lt := (List.getElem?_eq_some_iff.mp symbol_eq).1
    rw [String.length_toList, row_length _ (List.mem_of_getElem? symbols_eq)] at column_lt
    rw [rows_length] at row_lt
    rw [UInt32.toNat_ofNat_of_lt' (Nat.lt_trans row_lt size.rows.toNat_lt),
      UInt32.toNat_ofNat_of_lt' (Nat.lt_trans column_lt size.columns.toNat_lt), symbols_eq,
      Option.bind_some, symbol_eq]
  · intro found
    obtain ⟨symbols, symbols_eq, symbol_eq⟩ := Option.bind_eq_some_iff.mp found
    exact ⟨cell.row.toNat, symbols, symbols_eq, cell.column.toNat, symbol_eq, by
      rw [UInt32.ofNat_toNat, UInt32.ofNat_toNat]⟩

/-! ## Reading maps -/

/-- Maps, and no other files, are accepted. -/
theorem exists_ofMapFile_iff :
    (∃ layout, layout.size = size ∧ ofMapFile file = .ok layout) ↔ file.IsMap size := by
  have bare (size : GridSize) (tile : Tile) :
      ({ plain size with tile := tile } : Layout).startCount = 0 := rfl
  constructor
  · rintro ⟨layout, rfl, read⟩
    obtain ⟨measured, size, nonempty, rows_length, row_length, laid⟩ :=
      ofMapFile_eq_ok_iff_layAll.mp read
    have lays := (layAll_eq_ok_iff (vacant_tilesFrom_zero row_length rows_length)).mp laid
    obtain rfl : layout.size = size := lays.size_eq
    obtain ⟨known, one_start⟩ := exists_layAll_iff.mp ⟨layout, laid⟩
    rw [map_snd_tilesFrom] at known one_start
    rw [bare, Nat.zero_add] at one_start
    exact ⟨measured, nonempty, rows_length, row_length, fun row row_mem symbol symbol_mem =>
      known symbol (List.mem_flatMap_of_mem row_mem symbol_mem), one_start⟩
  · intro is_map
    have vacant : ({ plain size with tile := ⟨file.tileLength⟩ } : Layout).Vacant _ :=
      vacant_tilesFrom_zero is_map.row_length is_map.rows_length
    have known : ∀ symbol ∈ (tilesFrom 0 file.rows).map Prod.snd, symbol ∈ MapSymbol.all := by
      rw [map_snd_tilesFrom]
      intro symbol member
      obtain ⟨row, row_mem, symbol_mem⟩ := List.mem_flatMap.mp member
      exact is_map.known row row_mem symbol symbol_mem
    have one_start : ({ plain size with tile := ⟨file.tileLength⟩ } : Layout).startCount +
        ((tilesFrom 0 file.rows).map Prod.snd).count MapSymbol.start ≤ 1 := by
      rw [bare, Nat.zero_add, map_snd_tilesFrom]
      exact is_map.one_start
    obtain ⟨layout, laid⟩ := exists_layAll_iff.mpr ⟨known, one_start⟩
    exact ⟨layout, ((layAll_eq_ok_iff vacant).mp laid).size_eq,
      ofMapFile_eq_ok_iff_layAll.mpr ⟨is_map.measured, size, is_map.nonempty, is_map.rows_length,
        is_map.row_length, laid⟩⟩

theorem depicts_of_ofMapFile (read : ofMapFile file = .ok layout) : layout.Depicts file := by
  obtain ⟨-, size, -, rows_length, row_length, laid⟩ := ofMapFile_eq_ok_iff_layAll.mp read
  have lays := (layAll_eq_ok_iff (vacant_tilesFrom_zero row_length rows_length)).mp laid
  obtain rfl : layout.size = size := lays.size_eq
  have cells_eq := cells_tilesFrom_zero row_length rows_length
  -- Every cell of the grid shows its symbol, and the others are as in a layout without walls.
  have at_cell (cell : Cell) : (layout.isBlocked cell = true ↔
      file.symbolAt? cell = some MapSymbol.wall ∨ layout.size.contains cell = false) ∧
      (layout.start = some cell ↔ file.symbolAt? cell = some MapSymbol.start) := by
    cases inside : layout.size.contains cell with
    | true =>
        have member : cell ∈ (tilesFrom 0 file.rows).map Prod.fst :=
          cells_eq ▸ GridSize.mem_cells.mpr inside
        obtain ⟨⟨_, symbol⟩, tile_mem, rfl⟩ := List.mem_map.mp member
        have symbol_eq := (mem_tilesFrom_zero_iff rows_length row_length).mp tile_mem
        have shown := lays.shown _ tile_mem
        have blocked_eq := (get?_walls inside).symm.trans shown.wall_eq
        rw [Option.some.injEq] at blocked_eq
        simp [blocked_eq, symbol_eq, shown.start_iff]
    | false =>
        have not_member : cell ∉ (tilesFrom 0 file.rows).map Prod.fst := by
          rw [cells_eq, GridSize.mem_cells, inside]
          exact Bool.false_ne_true
        have kept := lays.kept cell not_member
        have no_symbol : file.symbolAt? cell = none := by
          rw [Option.eq_none_iff_forall_ne_some]
          intro symbol symbol_eq
          have tile_mem := (mem_tilesFrom_zero_iff rows_length row_length).mpr symbol_eq
          exact not_member (List.mem_map_of_mem tile_mem)
        have no_wall : layout.walls.get? cell = none := CellMap.get?_eq_none_iff.mpr inside
        simp [isBlocked, no_wall, no_symbol, kept.start_iff, plain]
  exact ⟨lays.tile_eq, fun cell => (at_cell cell).1, fun cell => (at_cell cell).2⟩

/-- A map file is accepted exactly if it is a map, and as the layout that it depicts. -/
theorem ofMapFile_eq_ok_iff_depicts :
    ofMapFile file = .ok layout ↔ file.IsMap layout.size ∧ layout.Depicts file := by
  constructor
  · intro read
    exact ⟨exists_ofMapFile_iff.mp ⟨layout, rfl, read⟩, depicts_of_ofMapFile read⟩
  · rintro ⟨is_map, depicts⟩
    obtain ⟨found, size_eq, read⟩ := exists_ofMapFile_iff.mpr is_map
    rw [depicts.eq (depicts_of_ofMapFile read) size_eq.symm, read]

end Layout
end GridWalk
