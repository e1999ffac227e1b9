import GridWalk.Grid.CellMap
import GridWalk.Grid.Tile
import GridWalk.Layout.Error
import GridWalk.Layout.MapFile
import GridWalk.World.Command

/-!
# Layouts

The plan of a grid: its size, its tile, its walls and where the mover starts. A layout is read from
the rows of a map file and gives those rows back; as commands it rebuilds itself in a world.
-/

namespace GridWalk

/-- The plan of a grid. -/
structure Layout where
  /-- The size of the grid. -/
  size : GridSize
  /-- The tile of the grid. -/
  tile : Tile
  /-- Which cells are walls. -/
  walls : CellMap size Bool
  /-- Where the mover starts, if anywhere. -/
  start : Option Cell
  deriving DecidableEq

/-! ## Tiles as symbols -/

namespace MapSymbol

/-- The symbol of an open cell. -/
def openCell : Char := '.'

/-- The symbol of a wall. -/
def wall : Char := '#'

/-- The symbol of the open cell where the mover starts. -/
def start : Char := '@'

end MapSymbol

namespace Layout

/-- The layout without walls. -/
def plain (size : GridSize) : Layout :=
  ⟨size, .standard, CellMap.replicate size false, none⟩

/-- Whether the cell cannot be entered. Cells outside the grid count as blocked. -/
def isBlocked (layout : Layout) (cell : Cell) : Bool :=
  (layout.walls.get? cell).getD true

/-- How many cells are walls. -/
def blockedCount (layout : Layout) : Nat :=
  layout.walls.count id

/-- The commands that build the layout in a world. -/
def commands (layout : Layout) : List Command :=
  .configureGrid layout.size layout.tile ::
    (layout.size.cells.filter layout.isBlocked).map (.setBlocked · true) ++
    layout.start.toList.map .placeMover

/-! ## Reading rows -/

/-- A count of tiles as a dimension. -/
def dimension (count : Nat) : Except LayoutError UInt32 :=
  if count < UInt32.size then .ok (UInt32.ofNat count)
  else .error (.invalidDimensions (toString count))

/-- Lays one tile. -/
def layTile (layout : Layout) (cell : Cell) (symbol : Char) : Except LayoutError Layout :=
  if symbol = MapSymbol.openCell then
    .ok layout
  else if symbol = MapSymbol.wall then
    .ok { layout with walls := layout.walls.set cell true }
  else if symbol = MapSymbol.start then
    if layout.start.isSome then .error .multipleStarts
    else .ok { layout with start := some cell }
  else
    .error (.unknownTile symbol cell.column cell.row)

/-- Lays tiles from a column on. -/
def layTiles (layout : Layout) (row column : UInt32) : List Char → Except LayoutError Layout
  | [] => .ok layout
  | symbol :: symbols => do
      let layout ← layout.layTile ⟨column, row⟩ symbol
      layout.layTiles row (column + 1) symbols

/-- Lays a row that has to be as long as the grid is wide. -/
def layRow (layout : Layout) (width row : UInt32) (symbols : List Char) :
    Except LayoutError Layout := do
  let found ← dimension symbols.length
  if found ≠ width then
    throw (.raggedRow row width found)
  layout.layTiles row 0 symbols

/-- Lays rows from a row on. -/
def layRows (layout : Layout) (width row : UInt32) : List String → Except LayoutError Layout
  | [] => .ok layout
  | symbols :: rows => do
      let layout ← layout.layRow width row symbols.toList
      layout.layRows width (row + 1) rows

/-- The layout that a map file describes. The first fault counts: the tile length, an empty grid,
and then row by row the length and the tiles from west to east. -/
def ofMapFile (file : MapFile) : Except LayoutError Layout := do
  if !file.tileLength.isPositiveFinite then
    throw (.invalidTileLength file.tileLength)
  let width := (file.rows.head?.map String.length).getD 0
  if width = 0 then
    throw .emptyGrid
  let columns ← dimension width
  let rows ← dimension file.rows.length
  layRows { plain ⟨columns, rows⟩ with tile := ⟨file.tileLength⟩ } columns 0 file.rows

/-! ## Writing rows -/

/-- The symbol of a cell. -/
def symbolAt (layout : Layout) (cell : Cell) : Char :=
  if layout.start = some cell then MapSymbol.start
  else if layout.isBlocked cell then MapSymbol.wall
  else MapSymbol.openCell

/-- The symbols of a row. -/
def rowSymbols (layout : Layout) (row : Nat) : List Char :=
  (List.range layout.size.columns.toNat).map fun column =>
    layout.symbolAt ⟨UInt32.ofNat column, UInt32.ofNat row⟩

/-- The map file that describes a layout. -/
def toMapFile (layout : Layout) : MapFile :=
  ⟨layout.tile.length,
    (List.range layout.size.rows.toNat).map fun row => String.ofList (layout.rowSymbols row)⟩

/-- The layout that a JSON map file describes. -/
def ofJson (document : Json.Bytes) : Except LayoutError Layout :=
  match MapFile.read document with
  | .ok file => ofMapFile file
  | .error fault => .error (.invalidPayload fault)

end Layout

end GridWalk
