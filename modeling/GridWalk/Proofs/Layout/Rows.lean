import GridWalk.Layout.Basic
import GridWalk.Proofs.Grid.RowMajor

/-!
# Layouts and their map files

Reading the rows of a map file lays its tiles one by one. What comes of it is known cell by cell:
the layout shows the symbol of every tile that was laid. A map file is therefore accepted exactly
when a well-formed layout writes it, and that layout is the one that is read.
-/

namespace GridWalk

namespace GridSize

theorem isEmpty_eq_false_iff {size : GridSize} :
    size.isEmpty = false ↔ 0 < size.columns.toNat ∧ 0 < size.rows.toNat := by
  simp [isEmpty, ← UInt32.toNat_inj, Nat.pos_iff_ne_zero]

end GridSize

namespace Layout

variable {layout other draft next result : Layout} {cell : Cell} {symbol : Char}
  {tiles : List (Cell × Char)} {rows : List String}

/-! ## Cell by cell -/

/-- Two layouts have the same wall and the same start on a cell. -/
structure Agrees (layout other : Layout) (cell : Cell) : Prop where
  wall_eq : layout.walls.get? cell = other.walls.get? cell
  start_iff : layout.start = some cell ↔ other.start = some cell

theorem Agrees.symm (agrees : layout.Agrees other cell) : other.Agrees layout cell :=
  ⟨agrees.wall_eq.symm, agrees.start_iff.symm⟩

theorem Agrees.trans (agrees : layout.Agrees other cell) (further : other.Agrees result cell) :
    layout.Agrees result cell :=
  ⟨agrees.wall_eq.trans further.wall_eq, agrees.start_iff.trans further.start_iff⟩

/-- Two layouts of one size and one tile that agree on every cell are the same. -/
theorem eq_of_agrees (size_eq : layout.size = other.size) (tile_eq : layout.tile = other.tile)
    (agrees : ∀ cell, layout.Agrees other cell) : layout = other := by
  have start_eq : layout.start = other.start := Option.ext fun cell => (agrees cell).start_iff
  have walls_eq (cell : Cell) := (agrees cell).wall_eq
  obtain ⟨size, tile, walls, start⟩ := layout
  obtain ⟨otherSize, otherTile, otherWalls, otherStart⟩ := other
  obtain rfl : size = otherSize := size_eq
  obtain rfl : tile = otherTile := tile_eq
  obtain rfl : start = otherStart := start_eq
  obtain rfl : walls = otherWalls := CellMap.ext_get? walls_eq
  rfl

/-- A layout has on a cell of its grid what a symbol stands for. -/
structure Shows (layout : Layout) (cell : Cell) (symbol : Char) : Prop where
  known : symbol = MapSymbol.openCell ∨ symbol = MapSymbol.wall ∨ symbol = MapSymbol.start
  wall_eq : layout.walls.get? cell = some (symbol == MapSymbol.wall)
  start_iff : layout.start = some cell ↔ symbol = MapSymbol.start

theorem Shows.agrees (shows_it : layout.Shows cell symbol) (other_shows : other.Shows cell symbol) :
    layout.Agrees other cell :=
  ⟨shows_it.wall_eq.trans other_shows.wall_eq.symm,
    shows_it.start_iff.trans other_shows.start_iff.symm⟩

theorem Shows.of_agrees (shows_it : layout.Shows cell symbol) (agrees : other.Agrees layout cell) :
    other.Shows cell symbol :=
  ⟨shows_it.known, agrees.wall_eq.trans shows_it.wall_eq, agrees.start_iff.trans shows_it.start_iff⟩

theorem isBlocked_eq_false_iff :
    layout.isBlocked cell = false ↔ layout.walls.get? cell = some false := by
  cases found : layout.walls.get? cell <;> simp [isBlocked, found]

theorem contains_of_isBlocked_eq_false (unblocked : layout.isBlocked cell = false) :
    layout.size.contains cell = true := by
  rw [isBlocked_eq_false_iff] at unblocked
  rw [← Bool.not_eq_false, ← CellMap.get?_eq_none_iff, unblocked]
  simp

theorem Shows.symbolAt_eq (shows_it : layout.Shows cell symbol) :
    layout.symbolAt cell = symbol := by
  obtain ⟨rfl | rfl | rfl, wall_eq, start_iff⟩ := shows_it <;>
    simp [symbolAt, isBlocked, wall_eq, start_iff, MapSymbol.openCell, MapSymbol.wall,
      MapSymbol.start]

/-- What holds of the layouts that can be made: there is a cell, the tile has a length, and the
mover starts on an open cell. -/
structure WellFormed (layout : Layout) : Prop where
  nonempty : layout.size.isEmpty = false
  measured : layout.tile.length.isPositiveFinite = true
  start_open : ∀ cell, layout.start = some cell → layout.isBlocked cell = false

/-- The start is never a wall, so one symbol tells everything about a cell. -/
theorem WellFormed.shows_symbolAt (wellFormed : layout.WellFormed)
    (inside : layout.size.contains cell = true) : layout.Shows cell (layout.symbolAt cell) := by
  unfold symbolAt
  split
  next started =>
    have unblocked := wellFormed.start_open cell started
    exact ⟨.inr (.inr rfl), isBlocked_eq_false_iff.mp unblocked, by simp [started]⟩
  next not_started =>
    split
    next blocked =>
      have wall_eq : layout.walls.get? cell = some true := by
        cases found : layout.walls.get? cell with
        | none => simp [CellMap.get?_eq_none_iff, inside] at found
        | some wall => simpa [isBlocked, found] using blocked
      exact ⟨.inr (.inl rfl), wall_eq, iff_of_false not_started (by decide)⟩
    next unblocked =>
      rw [Bool.not_eq_true] at unblocked
      exact ⟨.inl rfl, isBlocked_eq_false_iff.mp unblocked, iff_of_false not_started (by decide)⟩

/-! ## Laying tiles one after another -/

/-- Lays tiles one after another. -/
def layAll (layout : Layout) (tiles : List (Cell × Char)) : Except LayoutError Layout :=
  tiles.foldlM (fun layout tile => layout.layTile tile.1 tile.2) layout

theorem layAll_cons {tile : Cell × Char} :
    draft.layAll (tile :: tiles) = .ok result ↔
      ∃ next, draft.layTile tile.1 tile.2 = .ok next ∧ next.layAll tiles = .ok result := by
  rw [layAll, List.foldlM_cons, bind_eq_ok_iff]
  rfl

theorem layTile_eq_ok_iff :
    draft.layTile cell symbol = .ok next ↔
      symbol = MapSymbol.openCell ∧ next = draft ∨
      symbol = MapSymbol.wall ∧ next = { draft with walls := draft.walls.set cell true } ∨
      symbol = MapSymbol.start ∧ draft.start = none ∧
        next = { draft with start := some cell } := by
  have wall_ne : MapSymbol.wall ≠ MapSymbol.openCell := by decide
  have start_ne : MapSymbol.start ≠ MapSymbol.openCell := by decide
  have start_ne_wall : MapSymbol.start ≠ MapSymbol.wall := by decide
  unfold layTile
  split
  next is_open => simp [is_open, wall_ne.symm, start_ne.symm, eq_comm]
  split
  next is_wall => simp [is_wall, wall_ne, start_ne_wall.symm, eq_comm]
  split
  next is_start =>
    cases started : draft.start <;> simp [is_start, start_ne, start_ne_wall, eq_comm]
  next not_open not_wall not_start => simp [not_open, not_wall, not_start]

/-- The cells of the tiles differ, and on a draft they are all open still. -/
structure Vacant (draft : Layout) (tiles : List (Cell × Char)) : Prop where
  nodup : (tiles.map Prod.fst).Nodup
  bare : ∀ tile ∈ tiles, draft.Shows tile.1 MapSymbol.openCell

/-- What comes of laying tiles on a draft: their cells show them, and the others stay as they
are. -/
structure Lays (draft : Layout) (tiles : List (Cell × Char)) (result : Layout) : Prop where
  size_eq : result.size = draft.size
  tile_eq : result.tile = draft.tile
  shown : ∀ tile ∈ tiles, result.Shows tile.1 tile.2
  kept : ∀ cell, cell ∉ tiles.map Prod.fst → result.Agrees draft cell

/-- A tile that was laid is shown, and nothing else has changed. -/
theorem lays_of_layTile (bare : draft.Shows cell MapSymbol.openCell)
    (laid : draft.layTile cell symbol = .ok next) : draft.Lays [(cell, symbol)] next := by
  have inside : draft.size.contains cell = true :=
    contains_of_isBlocked_eq_false (isBlocked_eq_false_iff.mpr bare.wall_eq)
  have unstarted : draft.start ≠ some cell := fun started =>
    absurd (bare.start_iff.mp started) (by decide)
  obtain ⟨rfl, rfl⟩ | ⟨rfl, rfl⟩ | ⟨rfl, no_start, rfl⟩ := layTile_eq_ok_iff.mp laid
  · exact ⟨rfl, rfl, by simpa using bare, fun _ _ => ⟨rfl, .rfl⟩⟩
  · refine ⟨rfl, rfl, ?_, ?_⟩
    · rw [List.forall_mem_singleton]
      refine ⟨.inr (.inl rfl), ?_, ?_⟩
      · simp [CellMap.get?_set, inside]
      · simp [unstarted, MapSymbol.wall, MapSymbol.start]
    · intro elsewhere elsewhere_ne
      have cell_ne : cell ≠ elsewhere := by simpa [eq_comm] using elsewhere_ne
      exact ⟨by simp [CellMap.get?_set, cell_ne], .rfl⟩
  · refine ⟨rfl, rfl, ?_, ?_⟩
    · rw [List.forall_mem_singleton]
      exact ⟨.inr (.inr rfl), bare.wall_eq, by simp⟩
    · intro elsewhere elsewhere_ne
      have cell_ne : cell ≠ elsewhere := by simpa [eq_comm] using elsewhere_ne
      exact ⟨rfl, by simp [no_start, cell_ne]⟩

/-- A tile that something shows can be laid unless there is another start. -/
theorem exists_layTile (shows_it : result.Shows cell symbol)
    (no_other : result.start = some cell → draft.start = none) :
    ∃ next, draft.layTile cell symbol = .ok next := by
  obtain ⟨rfl | rfl | rfl, -, start_iff⟩ := shows_it
  · exact ⟨_, layTile_eq_ok_iff.mpr (.inl ⟨rfl, rfl⟩)⟩
  · exact ⟨_, layTile_eq_ok_iff.mpr (.inr (.inl ⟨rfl, rfl⟩))⟩
  · exact ⟨_, layTile_eq_ok_iff.mpr (.inr (.inr ⟨rfl, no_other (start_iff.mpr rfl), rfl⟩))⟩

section Onward

variable (vacant : draft.Vacant ((cell, symbol) :: tiles))
  (laid : draft.layTile cell symbol = .ok next)

include vacant laid

theorem Vacant.onward : next.Vacant tiles := by
  obtain ⟨cell_notMem, nodup⟩ := List.nodup_cons.mp vacant.nodup
  obtain ⟨bare, bare_rest⟩ := List.forall_mem_cons.mp vacant.bare
  have lays := lays_of_layTile bare laid
  refine ⟨nodup, fun tile tile_mem => (bare_rest tile tile_mem).of_agrees (lays.kept tile.1 ?_)⟩
  have tile_ne : tile.1 ≠ cell := ne_of_mem_of_not_mem (List.mem_map_of_mem tile_mem) cell_notMem
  simpa using tile_ne

/-- Once the first tile is laid, what comes of all tiles is what comes of the others. -/
theorem lays_cons_iff : draft.Lays ((cell, symbol) :: tiles) result ↔ next.Lays tiles result := by
  obtain ⟨cell_notMem, -⟩ := List.nodup_cons.mp vacant.nodup
  have lays := lays_of_layTile (vacant.bare _ List.mem_cons_self) laid
  have shown := lays.shown _ List.mem_cons_self
  constructor
  · intro all
    obtain ⟨shown_last, shown_rest⟩ := List.forall_mem_cons.mp all.shown
    refine ⟨all.size_eq.trans lays.size_eq.symm, all.tile_eq.trans lays.tile_eq.symm, shown_rest,
      fun elsewhere notMem => ?_⟩
    -- The rest does not touch the cell of the first tile, so both show the same symbol there.
    by_cases same : elsewhere = cell
    · subst same
      exact shown_last.agrees shown
    · have untouched : elsewhere ∉ ((cell, symbol) :: tiles).map Prod.fst := by
        simp [same, notMem]
      exact (all.kept elsewhere untouched).trans (lays.kept elsewhere (by simpa using same)).symm
  · intro rest
    refine ⟨rest.size_eq.trans lays.size_eq, rest.tile_eq.trans lays.tile_eq, ?_, ?_⟩
    · rw [List.forall_mem_cons]
      exact ⟨shown.of_agrees (rest.kept cell cell_notMem), rest.shown⟩
    · intro elsewhere notMem
      rw [List.map_cons, List.mem_cons, not_or] at notMem
      exact (rest.kept elsewhere notMem.2).trans (lays.kept elsewhere (by simpa using notMem.1))

end Onward

/-- A start that is laid is the only one, since no tile takes away another. -/
theorem Lays.start_eq_none (vacant : draft.Vacant ((cell, symbol) :: tiles))
    (lays : draft.Lays ((cell, symbol) :: tiles) result) (started : result.start = some cell) :
    draft.start = none := by
  cases draft_start : draft.start with
  | none => rfl
  | some old =>
      have old_notMem : old ∉ ((cell, symbol) :: tiles).map Prod.fst := by
        intro old_mem
        obtain ⟨tile, tile_mem, rfl⟩ := List.mem_map.mp old_mem
        exact absurd ((vacant.bare tile tile_mem).start_iff.mp draft_start) (by decide)
      have still : result.start = some old := (lays.kept old old_notMem).start_iff.mpr draft_start
      obtain rfl : cell = old := by simpa [started] using still
      simp at old_notMem

/-- Laying tiles on vacant cells gives exactly the layout that shows them. -/
theorem layAll_eq_ok_iff (vacant : draft.Vacant tiles) :
    draft.layAll tiles = .ok result ↔ draft.Lays tiles result := by
  induction tiles generalizing draft with
  | nil =>
      constructor
      · rintro ⟨⟩
        exact ⟨rfl, rfl, by simp, fun cell _ => ⟨rfl, .rfl⟩⟩
      · intro lays
        have same : draft = result :=
          (eq_of_agrees lays.size_eq lays.tile_eq fun cell => lays.kept cell (by simp)).symm
        exact congrArg Except.ok same
  | cons tile tiles induction =>
      obtain ⟨cell, symbol⟩ := tile
      rw [layAll_cons]
      constructor
      · rintro ⟨next, laid, rest⟩
        exact (lays_cons_iff vacant laid).mpr ((induction (vacant.onward laid)).mp rest)
      · intro lays
        -- Only a second start could be refused, and then the first would be gone from the result.
        obtain ⟨next, laid⟩ :=
          exists_layTile (lays.shown _ List.mem_cons_self) (lays.start_eq_none vacant)
        exact ⟨next, laid,
          (induction (vacant.onward laid)).mpr ((lays_cons_iff vacant laid).mp lays)⟩

/-! ## Laying rows -/

/-- The tiles of a row from a column on. -/
def rowTiles (row column : Nat) (symbols : List Char) : List (Cell × Char) :=
  (symbols.zipIdx column).map fun (symbol, column) =>
    (⟨UInt32.ofNat column, UInt32.ofNat row⟩, symbol)

/-- The tiles of rows from a row on. -/
def tilesFrom (row : Nat) (rows : List String) : List (Cell × Char) :=
  (rows.zipIdx row).flatMap fun (symbols, row) => rowTiles row 0 symbols.toList

theorem dimension_eq_ok_iff {count : Nat} {number : UInt32} :
    dimension count = .ok number ↔ count = number.toNat := by
  have number_lt := number.toNat_lt
  unfold dimension
  split
  next fits =>
    rw [Except.ok.injEq, ← UInt32.toNat_inj, UInt32.toNat_ofNat_of_lt' fits]
  next too_great =>
    have count_ne : count ≠ number.toNat := by
      rintro rfl
      exact too_great number_lt
    simp [count_ne]

theorem ofNat_add_one (count : Nat) : UInt32.ofNat count + 1 = UInt32.ofNat (count + 1) :=
  (UInt32.ofNat_add count 1).symm

theorem layTiles_eq {row column : Nat} {symbols : List Char} :
    draft.layTiles (UInt32.ofNat row) (UInt32.ofNat column) symbols =
      draft.layAll (rowTiles row column symbols) := by
  induction symbols generalizing draft column with
  | nil => rfl
  | cons symbol symbols induction =>
      simp only [layTiles, ofNat_add_one, induction]
      rfl

theorem layAll_append {more : List (Cell × Char)} :
    draft.layAll (tiles ++ more) = draft.layAll tiles >>= (·.layAll more) := by
  simp only [layAll, List.foldlM_append]

theorem layRow_eq_ok_iff {row : Nat} {width : UInt32} {symbols : List Char} :
    draft.layRow width (UInt32.ofNat row) symbols = .ok result ↔
      symbols.length = width.toNat ∧ draft.layAll (rowTiles row 0 symbols) = .ok result := by
  have laid : draft.layTiles (UInt32.ofNat row) 0 symbols = draft.layAll (rowTiles row 0 symbols) :=
    layTiles_eq
  simp only [layRow, bind_eq_ok_iff, dimension_eq_ok_iff, laid]
  constructor
  · rintro ⟨found, length_eq, rest⟩
    by_cases fits : found = width
    · subst fits
      simpa [length_eq] using rest
    · simp [fits] at rest
  · rintro ⟨length_eq, rest⟩
    exact ⟨width, length_eq, by simpa using rest⟩

theorem layRows_eq_ok_iff {row : Nat} {width : UInt32} :
    draft.layRows width (UInt32.ofNat row) rows = .ok result ↔
      (∀ symbols ∈ rows, symbols.length = width.toNat) ∧
        draft.layAll (tilesFrom row rows) = .ok result := by
  induction rows generalizing draft row with
  | nil => simp [layRows, tilesFrom, layAll]
  | cons symbols rows induction =>
      have tiles_eq : tilesFrom row (symbols :: rows) =
          rowTiles row 0 symbols.toList ++ tilesFrom (row + 1) rows := rfl
      simp only [layRows, bind_eq_ok_iff, layRow_eq_ok_iff, ofNat_add_one, induction, tiles_eq,
        layAll_append, List.forall_mem_cons, String.length_toList]
      constructor
      · rintro ⟨next, ⟨length_eq, laid⟩, lengths_eq, rest⟩
        exact ⟨⟨length_eq, lengths_eq⟩, next, laid, rest⟩
      · rintro ⟨⟨length_eq, lengths_eq⟩, next, laid, rest⟩
        exact ⟨next, ⟨length_eq, laid⟩, lengths_eq, rest⟩

/-! ## Tiles of a whole grid -/

theorem mem_tilesFrom_zero :
    (cell, symbol) ∈ tilesFrom 0 rows ↔
      ∃ row symbols, rows[row]? = some symbols ∧
        ∃ column, symbols.toList[column]? = some symbol ∧
          cell = ⟨UInt32.ofNat column, UInt32.ofNat row⟩ := by
  simp only [tilesFrom, rowTiles, List.mem_flatMap, List.mem_map, Prod.exists,
    List.mem_zipIdx_iff_getElem?, Prod.mk.injEq]
  constructor
  · rintro ⟨symbols, row, symbols_eq, symbol, column, symbol_eq, rfl, rfl⟩
    exact ⟨row, symbols, symbols_eq, column, symbol_eq, rfl⟩
  · rintro ⟨row, symbols, symbols_eq, column, symbol_eq, rfl⟩
    exact ⟨symbols, row, symbols_eq, symbol, column, symbol_eq, rfl, rfl⟩

section WholeGrid

variable {size : GridSize} (lengths_eq : ∀ symbols ∈ rows, symbols.length = size.columns.toNat)
  (count_eq : rows.length = size.rows.toNat)

include lengths_eq count_eq

theorem cells_tilesFrom_zero : (tilesFrom 0 rows).map Prod.fst = size.cells := by
  have row_eq (symbols : String) (row : Nat) (mem : symbols ∈ rows) :
      (rowTiles row 0 symbols.toList).map Prod.fst =
        (List.range size.columns.toNat).map fun column =>
          ⟨UInt32.ofNat column, UInt32.ofNat row⟩ := by
    rw [← lengths_eq symbols mem, ← String.length_toList, List.range_eq_range',
      ← List.zipIdx_map_snd, List.map_map, rowTiles, List.map_map]
    rfl
  rw [tilesFrom, List.map_flatMap, GridSize.cells, ← count_eq,
    List.range_eq_range' (n := rows.length), ← List.zipIdx_map_snd, List.flatMap_map]
  refine List.flatMap_congr fun tile tile_mem => row_eq tile.1 tile.2 ?_
  exact List.fst_mem_of_mem_zipIdx tile_mem

theorem contains_of_mem_tilesFrom_zero {laid : Cell × Char} (laid_mem : laid ∈ tilesFrom 0 rows) :
    size.contains laid.1 = true :=
  GridSize.mem_cells.mp
    (cells_tilesFrom_zero lengths_eq count_eq ▸ List.mem_map_of_mem laid_mem)

theorem vacant_tilesFrom_zero {tile : Tile} :
    ({ plain size with tile := tile } : Layout).Vacant (tilesFrom 0 rows) := by
  refine ⟨cells_tilesFrom_zero lengths_eq count_eq ▸ size.nodup_cells, fun laid laid_mem => ?_⟩
  have inside := contains_of_mem_tilesFrom_zero lengths_eq count_eq laid_mem
  exact ⟨.inl rfl, by simp [plain, inside, MapSymbol.openCell, MapSymbol.wall],
    by simp [plain, MapSymbol.openCell, MapSymbol.start]⟩

/-- The tiles that a layout shows are those of the rows that it writes. -/
theorem rows_eq_iff (size_eq : layout.size = size) :
    layout.toMapFile.rows = rows ↔
      ∀ tile ∈ tilesFrom 0 rows, layout.symbolAt tile.1 = tile.2 := by
  subst size_eq
  constructor
  · rintro written ⟨cell, symbol⟩ tile_mem
    obtain ⟨row, symbols, symbols_eq, column, symbol_eq, rfl⟩ := mem_tilesFrom_zero.mp tile_mem
    rw [← written] at symbols_eq
    simp only [toMapFile, List.getElem?_map, Option.map_eq_some_iff, List.getElem?_eq_some_iff,
      List.getElem_range] at symbols_eq
    obtain ⟨_, ⟨_, rfl⟩, rfl⟩ := symbols_eq
    simp only [rowSymbols, String.toList_ofList, List.getElem?_map, Option.map_eq_some_iff,
      List.getElem?_eq_some_iff, List.getElem_range] at symbol_eq
    obtain ⟨_, ⟨_, rfl⟩, rfl⟩ := symbol_eq
    rfl
  · intro shown
    refine List.ext_getElem (by simp [toMapFile, count_eq]) fun row _ row_lt => ?_
    have length_eq := lengths_eq _ (List.getElem_mem row_lt)
    rw [← String.length_toList] at length_eq
    rw [← String.toList_inj]
    refine List.ext_getElem (by simp [toMapFile, rowSymbols, length_eq])
      fun column _ column_lt => ?_
    have tile_mem := mem_tilesFrom_zero.mpr ⟨row, rows[row], List.getElem?_eq_getElem row_lt,
      column, List.getElem?_eq_getElem column_lt, rfl⟩
    simpa [toMapFile, rowSymbols] using shown _ tile_mem

end WholeGrid

/-- A map file is accepted exactly if its tile has a length, its rows fill a grid that is not empty,
and their tiles can be laid there. -/
theorem ofMapFile_eq_ok_iff_layAll {file : MapFile} :
    ofMapFile file = .ok layout ↔
      file.tileLength.isPositiveFinite = true ∧ ∃ size : GridSize, size.isEmpty = false ∧
        file.rows.length = size.rows.toNat ∧
        (∀ symbols ∈ file.rows, symbols.length = size.columns.toNat) ∧
        ({ plain size with tile := ⟨file.tileLength⟩ } : Layout).layAll (tilesFrom 0 file.rows) =
          .ok layout := by
  obtain ⟨length, rows⟩ := file
  by_cases measured : length.isPositiveFinite = true
  swap
  · simp [ofMapFile, measured]
  cases rows with
  | nil =>
      refine iff_of_false (by simp [ofMapFile, measured]) ?_
      rintro ⟨-, size, nonempty, count_eq, -⟩
      have rows_pos := (GridSize.isEmpty_eq_false_iff.mp nonempty).2
      exact Nat.ne_of_lt rows_pos count_eq
  | cons first rows =>
      have accepted : ofMapFile ⟨length, first :: rows⟩ = .ok layout ↔
          first.length ≠ 0 ∧ ∃ columns, first.length = columns.toNat ∧
            ∃ count, (first :: rows).length = count.toNat ∧
              ({ plain ⟨columns, count⟩ with tile := ⟨length⟩ } : Layout).layRows columns
                (UInt32.ofNat 0) (first :: rows) = .ok layout := by
        by_cases first_empty : first.length = 0
        · simp [ofMapFile, measured, first_empty]
        · simp [ofMapFile, measured, first_empty, bind_eq_ok_iff, dimension_eq_ok_iff]
      rw [accepted]
      constructor
      · rintro ⟨first_ne, columns, first_eq, count, count_eq, laid⟩
        obtain ⟨lengths_eq, laid⟩ := layRows_eq_ok_iff.mp laid
        have nonempty : (⟨columns, count⟩ : GridSize).isEmpty = false :=
          GridSize.isEmpty_eq_false_iff.mpr
            ⟨first_eq ▸ Nat.pos_of_ne_zero first_ne, count_eq ▸ Nat.succ_pos _⟩
        exact ⟨measured, ⟨columns, count⟩, nonempty, count_eq, lengths_eq, laid⟩
      · rintro ⟨-, size, nonempty, count_eq, lengths_eq, laid⟩
        have first_eq := lengths_eq first List.mem_cons_self
        have columns_pos := (GridSize.isEmpty_eq_false_iff.mp nonempty).1
        have first_ne : first.length ≠ 0 := first_eq ▸ Nat.ne_of_gt columns_pos
        exact ⟨first_ne, size.columns, first_eq, size.rows, count_eq,
          layRows_eq_ok_iff.mpr ⟨lengths_eq, laid⟩⟩

/-- Tiles that fill a grid give exactly the well-formed layouts that write their rows. -/
theorem layAll_tilesFrom_zero_iff {size : GridSize} {tile : Tile}
    (nonempty : size.isEmpty = false) (measured : tile.length.isPositiveFinite = true)
    (count_eq : rows.length = size.rows.toNat)
    (lengths_eq : ∀ symbols ∈ rows, symbols.length = size.columns.toNat) :
    ({ plain size with tile := tile } : Layout).layAll (tilesFrom 0 rows) = .ok layout ↔
      layout.WellFormed ∧ layout.size = size ∧ layout.tile = tile ∧
        layout.toMapFile.rows = rows := by
  rw [layAll_eq_ok_iff (vacant_tilesFrom_zero lengths_eq count_eq)]
  constructor
  · intro lays
    have size_eq : layout.size = size := lays.size_eq
    have tile_eq : layout.tile = tile := lays.tile_eq
    refine ⟨⟨size_eq ▸ nonempty, tile_eq ▸ measured, fun cell started => ?_⟩, size_eq, tile_eq, ?_⟩
    · have cell_mem : cell ∈ (tilesFrom 0 rows).map Prod.fst := by
        by_contra cell_notMem
        have := (lays.kept cell cell_notMem).start_iff.mp started
        simp [plain] at this
      obtain ⟨laid, laid_mem, rfl⟩ := List.mem_map.mp cell_mem
      have shown := lays.shown laid laid_mem
      rw [isBlocked_eq_false_iff, shown.wall_eq, shown.start_iff.mp started]
      rfl
    · exact (rows_eq_iff lengths_eq count_eq size_eq).mpr fun laid laid_mem =>
        (lays.shown laid laid_mem).symbolAt_eq
  · rintro ⟨wellFormed, rfl, rfl, written⟩
    have shown := (rows_eq_iff lengths_eq count_eq rfl).mp written
    refine ⟨rfl, rfl, fun laid laid_mem => ?_, fun cell cell_notMem => ?_⟩
    · have inside := contains_of_mem_tilesFrom_zero lengths_eq count_eq laid_mem
      exact shown laid laid_mem ▸ wellFormed.shows_symbolAt inside
    · have outside : layout.size.contains cell = false := by
        rw [cells_tilesFrom_zero lengths_eq count_eq, GridSize.mem_cells,
          Bool.not_eq_true] at cell_notMem
        exact cell_notMem
      have unstarted : layout.start ≠ some cell := fun started => by
        have := contains_of_isBlocked_eq_false (wellFormed.start_open cell started)
        simp [outside] at this
      have no_wall {walls : CellMap layout.size Bool} : walls.get? cell = none :=
        CellMap.get?_eq_none_iff.mpr outside
      exact ⟨no_wall.trans no_wall.symm, by simp [plain, unstarted]⟩

/-- A map file is accepted exactly when a well-formed layout writes it, and as that layout. -/
theorem ofMapFile_eq_ok_iff {file : MapFile} :
    ofMapFile file = .ok layout ↔ layout.WellFormed ∧ layout.toMapFile = file := by
  rw [ofMapFile_eq_ok_iff_layAll]
  obtain ⟨length, rows⟩ := file
  constructor
  · rintro ⟨measured, size, nonempty, count_eq, lengths_eq, laid⟩
    obtain ⟨wellFormed, rfl, tile_eq, written⟩ :=
      (layAll_tilesFrom_zero_iff nonempty measured count_eq lengths_eq).mp laid
    exact ⟨wellFormed, congrArg₂ MapFile.mk (congrArg Tile.length tile_eq) written⟩
  · rintro ⟨wellFormed, written⟩
    obtain ⟨rfl, rfl⟩ := MapFile.mk.inj written
    have count_eq : layout.toMapFile.rows.length = layout.size.rows.toNat := by simp [toMapFile]
    have lengths_eq :
        ∀ symbols ∈ layout.toMapFile.rows, symbols.length = layout.size.columns.toNat := by
      simp [toMapFile, rowSymbols, String.length_ofList]
    exact ⟨wellFormed.measured, layout.size, wellFormed.nonempty, count_eq, lengths_eq,
      (layAll_tilesFrom_zero_iff wellFormed.nonempty wellFormed.measured count_eq lengths_eq).mpr
        ⟨wellFormed, rfl, rfl, rfl⟩⟩

end Layout

end GridWalk
