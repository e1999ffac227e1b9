import GridWalk.Grid.Cell

/-!
# Tiles

Square tiles place cells in the coordinates of a drawing surface.
-/

namespace GridWalk

/-- A square tile. -/
structure Tile where
  /-- Length of an edge. -/
  length : Binary32
  deriving DecidableEq, Repr

namespace Tile

/-- The tile of a grid that nobody has configured. -/
def standard : Tile := ⟨Binary32.ofNat 24⟩

/-- The upper left corner of the tile on a cell. -/
def originOf (tile : Tile) (cell : Cell) : Binary32 × Binary32 :=
  ((Binary32.ofNat cell.column.toNat).multiply tile.length,
    (Binary32.ofNat cell.row.toNat).multiply tile.length)

theorem isPositiveFinite_standard : standard.length.isPositiveFinite = true := by
  decide

end Tile

end GridWalk
