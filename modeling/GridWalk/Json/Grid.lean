import GridWalk.Json.Reader
import GridWalk.World.Event

/-!
# JSON forms of grid values

Cells and grid sizes are records of two numbers; directions and placement errors are names.
-/

namespace GridWalk

open Json

/-- A field that has to be there and holds a 32-bit number. -/
private def numberField (name : String) : RecordField UInt32 := ⟨name, readUInt32, none⟩

/-- Reads a cell. -/
def Cell.read : Reader Cell := fun input => do
  let ((column, row), rest) ← readRecord (numberField "column") (numberField "row") input
  pure (⟨column, row⟩, rest)

/-- The written form of a cell. -/
def Cell.write (cell : Cell) : String :=
  s!"\x7b\"column\":{cell.column},\"row\":{cell.row}\x7d"

/-- Reads a grid size. -/
def GridSize.read : Reader GridSize := fun input => do
  let ((columns, rows), rest) ← readRecord (numberField "columns") (numberField "rows") input
  pure (⟨columns, rows⟩, rest)

/-- The written form of a grid size. -/
def GridSize.write (size : GridSize) : String :=
  s!"\x7b\"columns\":{size.columns},\"rows\":{size.rows}\x7d"

/-- Reads a direction. -/
def Direction.read : Reader Direction := readName Direction.name Direction.all

/-- The written form of a direction. -/
def Direction.write (direction : Direction) : String := quote direction.name

/-- Reads a placement error. -/
def PlacementError.read : Reader PlacementError := readName PlacementError.name PlacementError.all

/-- The written form of a placement error. -/
def PlacementError.write (reason : PlacementError) : String := quote reason.name

end GridWalk
