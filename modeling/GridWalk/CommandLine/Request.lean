import GridWalk.CommandLine.Item
import GridWalk.Grid.Size
import GridWalk.Text.Fraction

/-!
# Requests

What a command line asks for. Items are taken in order and the first fault counts, so that the
version is shown unless a fault comes before it. An option is given once, and the layout has one
source.
-/

namespace GridWalk.CommandLine

/-- Where a layout comes from. -/
inductive LayoutSource where
  | file (path : String)
  | transfer (text : String)
  | scatter (density : Binary64)
  | plain
  deriving DecidableEq

/-- A replay of actions, or a layout to be written. -/
structure Invocation where
  /-- Where the layout comes from. -/
  source : LayoutSource
  /-- The size of a grid that is not read. -/
  size : GridSize
  /-- The seed of a scattering. -/
  seed : UInt64
  /-- The path of the settings, if they are not the standard ones. -/
  settings : Option String
  /-- Whether the layout is written as a transfer string and nothing is replayed. -/
  encode : Bool
  /-- The actions, in order. -/
  actions : List Action
  deriving DecidableEq

/-- What a command line asks for. -/
inductive Request where
  | version
  | run (invocation : Invocation)
  deriving DecidableEq

/-- The options and the actions taken so far. -/
structure Arguments where
  /-- The path of a map file. -/
  map : Option String := none
  /-- A transfer string. -/
  layout : Option String := none
  /-- The density of a scattering. -/
  scatter : Option Binary64 := none
  /-- The columns of a grid that is not read. -/
  columns : Option UInt32 := none
  /-- The rows of a grid that is not read. -/
  rows : Option UInt32 := none
  /-- The seed of a scattering. -/
  seed : Option UInt64 := none
  /-- The path of a settings file. -/
  settings : Option String := none
  /-- Whether a transfer string is wanted. -/
  encode : Bool := false
  /-- The actions, the last first. -/
  actions : List Action := []
  deriving DecidableEq

/-! ## Values -/

/-- A path, which may not be empty. -/
def readPath (text : String) : Option String :=
  if text = "" then none else some text

/-- A 32-bit number, which has a minus sign only if it is zero. -/
def readDimension (text : String) : Option UInt32 :=
  match text.toList with
  | '-' :: digits => ((Text.readDigits digits).filter (· = 0)).map UInt32.ofNat
  | numeral => Text.readUInt32 numeral

/-- A 64-bit number. -/
def readSeed (text : String) : Option UInt64 :=
  (Text.readNumeral UInt64.size text.toList).map UInt64.ofNat

/-- A density. -/
def readDensity (text : String) : Option Binary64 :=
  Text.readBinary64 text.toList

namespace Arguments

/-- Fills the empty place of a parameter with the value that a text writes. -/
def fill {α : Type} (parameter : Parameter) (place : Option α) (read : String → Option α)
    (text : String) : Except UsageError (Option α) :=
  match read text, place with
  | none, _ => .error (.invalidValue parameter text)
  | some _, some _ => .error (.repeated parameter.name)
  | some value, none => .ok (some value)

/-- Takes the value of a parameter. -/
def takeValue (arguments : Arguments) (parameter : Parameter) (text : String) :
    Except UsageError Arguments :=
  match parameter with
  | .map => do pure { arguments with map := ← fill parameter arguments.map readPath text }
  | .layout => do pure { arguments with layout := ← fill parameter arguments.layout some text }
  | .scatter => do
      pure { arguments with scatter := ← fill parameter arguments.scatter readDensity text }
  | .columns => do
      pure { arguments with columns := ← fill parameter arguments.columns readDimension text }
  | .rows => do pure { arguments with rows := ← fill parameter arguments.rows readDimension text }
  | .seed => do pure { arguments with seed := ← fill parameter arguments.seed readSeed text }
  | .settings => do
      pure { arguments with settings := ← fill parameter arguments.settings readPath text }

/-- The source of the layout, of which there is at most one. -/
def source (arguments : Arguments) : Except UsageError LayoutSource :=
  match arguments.map, arguments.layout, arguments.scatter with
  | some path, none, none => .ok (.file path)
  | none, some text, none => .ok (.transfer text)
  | none, none, some density => .ok (.scatter density)
  | none, none, none => .ok .plain
  | _, _, _ => .error .conflictingSources

/-- The invocation that the arguments make together. -/
def invocation (arguments : Arguments) : Except UsageError Invocation := do
  let standard := GridSize.standard
  pure
    { source := ← arguments.source
      size := ⟨arguments.columns.getD standard.columns, arguments.rows.getD standard.rows⟩
      seed := arguments.seed.getD 0
      settings := arguments.settings
      encode := arguments.encode
      actions := arguments.actions.reverse }

/-- Takes items in order. -/
def takeAll (arguments : Arguments) : List Item → Except UsageError Request
  | [] => return .run (← arguments.invocation)
  | .version :: _ => .ok .version
  | .fault error :: _ => .error error
  | .value parameter text :: items => do
      let arguments ← arguments.takeValue parameter text
      arguments.takeAll items
  | .encode :: items =>
      if arguments.encode then .error (.repeated "encode")
      else { arguments with encode := true }.takeAll items
  | .action word :: items =>
      match Action.ofText word with
      | .error error => .error (.invalidAction error)
      | .ok action => { arguments with actions := action :: arguments.actions }.takeAll items

end Arguments

/-- What the words of a command line ask for. -/
def Request.ofWords (words : List String) : Except UsageError Request :=
  Arguments.takeAll {} (items words)

/-- The paths of the files that an invocation reads. -/
def Invocation.paths (invocation : Invocation) : List String :=
  let map := match invocation.source with
    | .file path => [path]
    | .transfer _ | .scatter _ | .plain => []
  invocation.settings.toList ++ map

end GridWalk.CommandLine
