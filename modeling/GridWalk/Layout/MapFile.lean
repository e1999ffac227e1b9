import GridWalk.Grid.Tile
import GridWalk.Json.Reader

/-!
# Map files

The stored form of a layout: a JSON record of a tile length, which may be missing, and one string
for each row of the grid.
-/

namespace GridWalk

/-- A layout as it is stored. -/
structure MapFile where
  /-- The length of a tile. -/
  tileLength : Binary32
  /-- The rows of tiles, from north to south. -/
  rows : List String
  deriving DecidableEq, Repr

namespace MapFile

/-- The field of the tile length. -/
def tileLengthField : Json.RecordField Binary32 :=
  ⟨"tile_length", Json.readBinary32, some Tile.standard.length⟩

/-- The field of the rows. -/
def rowsField : Json.RecordField (List String) :=
  ⟨"rows", Json.readList Json.readString, none⟩

/-- Reads a map file from the bytes of a document. -/
def read (document : Json.Bytes) : Except Json.Fault MapFile := do
  let (tileLength, rows) ← Json.readDocument (Json.readRecord tileLengthField rowsField) document
  pure ⟨tileLength, rows⟩

/-- The document of a map file whose rows need no escapes. -/
def write (file : MapFile) : String :=
  let rows := String.intercalate "," (file.rows.map Json.quote)
  s!"\x7b\"tile_length\":{Json.writeBinary32 file.tileLength},\"rows\":[{rows}]\x7d"

end MapFile

end GridWalk
