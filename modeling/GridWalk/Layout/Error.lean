import GridWalk.Grid.Size
import GridWalk.Json.Fault
import GridWalk.Number.Decimal

/-!
# Unreadable layouts

Everything that may be wrong with a map file, a transfer string or a scattering, with the sentence
that says so.
-/

namespace GridWalk

/-- A part of a transfer string. -/
inductive TransferField where
  | domain
  | version
  | dimensions
  | payload
  deriving DecidableEq, Repr

/-- The name of a part of a transfer string. -/
def TransferField.name : TransferField → String
  | domain => "prefix"
  | version => "version"
  | dimensions => "grid dimensions"
  | payload => "payload"

/-- Why there is no layout. -/
inductive LayoutError where
  | emptyPayload
  | missingSegment (missing : TransferField)
  | invalidDomain (found : String)
  | unsupportedVersion (found : String)
  | invalidDimensions (found : String)
  | dimensionMismatch (declared actual : GridSize)
  | invalidEncoding
  | invalidPayload (fault : Json.Fault)
  | emptyGrid
  | raggedRow (row expected found : UInt32)
  | unknownTile (symbol : Char) (column row : UInt32)
  | multipleStarts
  | invalidTileLength (length : Binary32)
  | invalidDensity (density : Binary64)
  deriving DecidableEq

namespace LayoutError

/-- The sentence shown for the error. What is wrong inside a payload is not spelled out. -/
def message : LayoutError → String
  | emptyPayload => "layout string was empty"
  | missingSegment missing => s!"layout string is missing the {missing.name}"
  | invalidDomain found => s!"layout prefix '{found}' is not supported"
  | unsupportedVersion found => s!"layout version '{found}' is not supported"
  | invalidDimensions found => s!"could not parse grid dimensions '{found}'"
  | dimensionMismatch declared actual =>
      s!"header declares {declared.columns}x{declared.rows} but the rows describe " ++
        s!"{actual.columns}x{actual.rows}"
  | invalidEncoding => "could not decode layout payload"
  | invalidPayload _ => "could not process layout json"
  | emptyGrid => "map must contain at least one row and one column"
  | raggedRow row expected found => s!"row {row} has {found} tiles, expected {expected}"
  | unknownTile symbol column row => s!"unknown tile '{symbol}' at ({column}, {row})"
  | multipleStarts => "map marks more than one start cell"
  | invalidTileLength length => s!"tile length {length.toPlain} must be positive and finite"
  | invalidDensity density =>
      s!"obstacle density {density.toPlain} must lie within 0.0 and 1.0"

end LayoutError

end GridWalk
