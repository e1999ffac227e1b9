import GridWalk.Grid.Direction
import GridWalk.Text.Numeral
import GridWalk.Text.Split
import GridWalk.Text.Trim

/-!
# Actions

What a script asks of a session, one action in one word: a kind, a colon and an argument. The kind
and each part of the argument may have blanks around them; letters may be small or large.
-/

namespace GridWalk

/-- A step of a script. -/
inductive Action where
  /-- Asks the mover to walk to a cell. -/
  | moveTo (target : Cell)
  /-- Lets so many tick intervals pass. -/
  | wait (ticks : UInt32)
  /-- Presses the key of a direction. -/
  | key (direction : Direction)
  deriving DecidableEq, Repr

/-- Why a word is no action. -/
inductive ActionError where
  /-- The word has no colon or is of no known kind. -/
  | malformed (word : String)
  | invalidCell (argument : String)
  | invalidTicks (argument : String)
  | unknownDirection (argument : String)
  deriving DecidableEq, Repr

/-- The sentence shown for the error. -/
def ActionError.message : ActionError → String
  | malformed word => s!"expected `to:COLUMN,ROW`, `wait:TICKS` or `key:DIRECTION`, got `{word}`"
  | invalidCell argument => s!"invalid cell `{argument}`, expected COLUMN,ROW"
  | invalidTicks argument => s!"invalid tick count `{argument}`"
  | unknownDirection argument => s!"unknown direction `{argument}`"

/-- A text without the blanks around it and in small ASCII letters. -/
def Text.keyword (text : List Char) : String :=
  String.ofList ((Text.trim text).map Char.toLower)

/-- The names that a key press may use for a direction. -/
def Direction.aliases : Direction → List String
  | north => ["n", "north", "up"]
  | east => ["e", "east", "right"]
  | south => ["s", "south", "down"]
  | west => ["w", "west", "left"]

/-- The direction that a text names. -/
def Direction.ofText? (text : List Char) : Option Direction :=
  Direction.all.find? fun direction => direction.aliases.contains (Text.keyword text)

/-- The cell that a text writes, its column and its row with a comma between them. -/
def Cell.ofText? (text : List Char) : Option Cell := do
  let (column, row) ← Text.splitFirst (· = ',') text
  pure ⟨← Text.readUInt32 (Text.trim column), ← Text.readUInt32 (Text.trim row)⟩

namespace Action

/-- The action of the given kind with an argument, unless the kind is unknown. -/
def ofParts? (kind : String) (argument : List Char) : Option (Except ActionError Action) :=
  let wanted {α : Type} (value : Option α) (make : α → Action) (error : String → ActionError) :=
    match value with
    | some value => .ok (make value)
    | none => .error (error (String.ofList argument))
  match kind with
  | "to" => some (wanted (Cell.ofText? argument) .moveTo .invalidCell)
  | "wait" => some (wanted (Text.readUInt32 (Text.trim argument)) .wait .invalidTicks)
  | "key" => some (wanted (Direction.ofText? argument) .key .unknownDirection)
  | _ => none

/-- The action that a word writes. -/
def ofText (word : String) : Except ActionError Action :=
  let parts := Text.splitFirst (· = ':') word.toList
  match parts.bind fun (kind, argument) => ofParts? (Text.keyword kind) argument with
  | some answer => answer
  | none => .error (.malformed word)

end Action

end GridWalk
