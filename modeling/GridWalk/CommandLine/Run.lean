import GridWalk.CommandLine.Request
import GridWalk.Layout.Scatter
import GridWalk.Layout.Transfer
import GridWalk.Session.Transcript
import GridWalk.Text.Trim

/-!
# Running an invocation

What an invocation prints, as a function of the files that exist. The settings are read before the
layout, and the first failure counts. A failure has causes, from what was tried to what was wrong.
-/

namespace GridWalk.CommandLine

/-- The name and the version of the program. -/
def versionLine : String := "tilewalk-cli 0.1.0"

/-- Why an invocation prints nothing. -/
inductive Failure where
  | settingsFile (path : String)
  | settings (path : String) (error : SettingsError)
  | mapFile (path : String)
  | map (path : String) (error : LayoutError)
  | transfer (error : LayoutError)
  | emptyGrid
  | scatter (error : LayoutError)
  deriving DecidableEq

/-- What there is to say of a failure, what was tried first. -/
def Failure.sentences : Failure → List String
  | settingsFile path => [s!"failed to read settings file at {path}"]
  | settings path error => [s!"invalid settings file at {path}", error.message]
  | mapFile path => [s!"failed to read map file at {path}"]
  | map path error => [s!"invalid map file at {path}", error.message]
  | transfer error => ["invalid map transfer string", error.message]
  | emptyGrid => ["grid must have at least one column and one row"]
  | scatter error => ["failed to scatter obstacles", error.message]

/-- The causes of a failure, what was tried first. Each is an entry of its own in a report, so
blanks that a path brings to the end of a sentence are not part of it. -/
def Failure.causes (failure : Failure) : List String :=
  failure.sentences.map fun sentence => String.ofList (Text.trim sentence.toList)

/-- The texts of the files that exist, by path. -/
abbrev Files := String → Option String

namespace Invocation

/-- The settings of an invocation. -/
def readSettings (invocation : Invocation) (files : Files) : Except Failure Settings :=
  match invocation.settings with
  | none => .ok {}
  | some path =>
      match files path with
      | none => .error (.settingsFile path)
      | some document => (Settings.ofText document).mapError (.settings path)

/-- The cells that actions ask the mover to walk to. -/
def targets (actions : List Action) : List Cell :=
  actions.filterMap fun action =>
    match action with
    | .moveTo target => some target
    | .wait _ | .key _ => none

/-- The layout of an invocation. A scattering leaves the targets of the actions open. -/
def readLayout (invocation : Invocation) (files : Files) : Except Failure Layout :=
  let sized (layout : Except Failure Layout) : Except Failure Layout :=
    if invocation.size.isEmpty then .error .emptyGrid else layout
  match invocation.source with
  | .file path =>
      match files path with
      | none => .error (.mapFile path)
      | some document => (Layout.ofJson (Json.bytesOf document)).mapError (.map path)
  | .transfer text => (Layout.decode text).mapError .transfer
  | .scatter density =>
      sized <| (Layout.scattered invocation.size density invocation.seed
        (targets invocation.actions)).mapError .scatter
  | .plain => sized (.ok (Layout.plain invocation.size))

/-- The lines that an invocation prints. -/
def output (invocation : Invocation) (files : Files) : Except Failure (List String) := do
  let settings ← invocation.readSettings files
  let layout ← invocation.readLayout files
  if invocation.encode then
    pure [layout.encode]
  else
    pure (Session.transcript layout settings invocation.actions)

end Invocation

end GridWalk.CommandLine
