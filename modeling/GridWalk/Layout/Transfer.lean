import GridWalk.Layout.Basic
import GridWalk.Text.Base64
import GridWalk.Text.Numeral
import GridWalk.Text.Split
import GridWalk.Text.Trim

/-!
# Transfer strings

A layout on a single line: what the string is, how it is written, the size of the grid and the map
file in Base64, with colons between them.
-/

namespace GridWalk.Layout

/-- What every transfer string says it is. -/
def transferDomain : String := "map"

/-- How transfer strings are written. -/
def transferVersion : String := "v1"

/-- The start of every transfer string. -/
def transferHeader : String := transferDomain ++ ":" ++ transferVersion

/-- The written form of a grid size. -/
def writeDimensions (size : GridSize) : String :=
  s!"{size.columns}x{size.rows}"

/-- The layout as a transfer string. -/
def encode (layout : Layout) : String :=
  let payload := String.ofList (Base64.encode (Json.bytesOf layout.toMapFile.write))
  s!"{transferHeader}:{writeDimensions layout.size}:{payload}"

/-- The grid size that a text writes, of at least one column and one row. The first letter x, small
or large, stands between the two numbers, which may have blanks around them. -/
def readDimensions? (text : List Char) : Option GridSize := do
  let (columns, rows) ← Text.splitFirst (fun symbol => symbol = 'x' ∨ symbol = 'X') text
  let size : GridSize :=
    ⟨← Text.readUInt32 (Text.trim columns), ← Text.readUInt32 (Text.trim rows)⟩
  if size.isEmpty then none else some size

/-- The layout of a map file in Base64, which has to be of the declared size. -/
def ofPayload (declared : GridSize) (payload : List Char) : Except LayoutError Layout :=
  match Base64.decode payload with
  | none => .error .invalidEncoding
  | some document => do
      let layout ← ofJson document
      if layout.size = declared then pure layout
      else throw (.dimensionMismatch declared layout.size)

/-- The layout of a transfer string with the given parts. -/
def ofParts (domain version dimensions payload : List Char) : Except LayoutError Layout :=
  if String.ofList domain ≠ transferDomain then
    .error (.invalidDomain (String.ofList domain))
  else if String.ofList version ≠ transferVersion then
    .error (.unsupportedVersion (String.ofList version))
  else
    match readDimensions? dimensions with
    | none => .error (.invalidDimensions (String.ofList dimensions))
    | some declared => ofPayload declared payload

/-- The layout of a transfer string. Blanks around it and anything behind a further colon do not
matter. -/
def decode (text : String) : Except LayoutError Layout :=
  let trimmed := Text.trim text.toList
  if trimmed = [] then
    .error .emptyPayload
  else
    match Text.fields ':' trimmed with
    | domain :: version :: dimensions :: payload :: _ =>
        ofParts domain version dimensions payload
    | [_, _, _] => .error (.missingSegment .payload)
    | [_, _] => .error (.missingSegment .dimensions)
    | [_] => .error (.missingSegment .version)
    | [] => .error (.missingSegment .domain)

end GridWalk.Layout
