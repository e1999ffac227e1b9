import GridWalk.Clock.Scheduler
import GridWalk.Grid.Direction
import GridWalk.Search.NoPath

/-!
# Notes

What the library reports about its own work, beside its answers. A note is a value; its severity and
wording are read off it.
-/

namespace GridWalk

/-- How much attention a note asks for. -/
inductive Severity where
  | debug
  | info
  | warn
  deriving DecidableEq, Repr

/-- The word for a severity. -/
def Severity.name : Severity → String
  | debug => "DEBUG"
  | info => "INFO"
  | warn => "WARN"

/-- A remark on something that happened. -/
inductive Note where
  /-- A search ended after popping `expanded` cells. -/
  | searched (start goal : Cell) (expanded : Nat)
  | requestIgnored (target : Cell)
  | requestDropped (target : Cell) (reason : NoPath)
  | moveSuperseded (target : Cell)
  | moveStarted (target : Cell) (steps : Nat) (timer : TimerId)
  | arrived (cell : Cell)
  | emptyGridIgnored (size : GridSize)
  | stepBlocked (direction : Direction) (cell : Cell)
  | moveInterrupted
  | distanceMeasured (target : Cell) (distance : Option Nat)
  deriving DecidableEq

namespace Note

/-- The spelling of a cell in notes. -/
def describeCell (cell : Cell) : String :=
  s!"CellCoord \x7b column: {cell.column}, row: {cell.row} \x7d"

/-- The spelling of a grid size in notes. -/
def describeSize (size : GridSize) : String :=
  s!"GridSize \x7b columns: {size.columns}, rows: {size.rows} \x7d"

/-- The spelling of a distance in notes. -/
def describeDistance : Option Nat → String
  | some distance => s!"Some({distance})"
  | none => "None"

/-- The severity of a note. -/
def severity : Note → Severity
  | searched .. | moveSuperseded _ | moveStarted .. | emptyGridIgnored _ | stepBlocked .. => .debug
  | requestDropped .. | arrived _ | moveInterrupted | distanceMeasured .. => .info
  | requestIgnored _ => .warn

/-- The wording of a note. -/
def text : Note → String
  | searched start goal expanded =>
      s!"pathfind {describeCell start} -> {describeCell goal}: {expanded} expansions"
  | requestIgnored target =>
      s!"move to {describeCell target} ignored: a move is already in progress"
  | requestDropped target reason => s!"move to {describeCell target} dropped: {reason.message}"
  | moveSuperseded target => s!"superseded active move with a move to {describeCell target}"
  | moveStarted target steps timer =>
      s!"moving to {describeCell target} in {steps} steps on timer {timer.value}"
  | arrived cell => s!"arrived at {describeCell cell}"
  | emptyGridIgnored size => s!"ignoring empty grid {describeSize size}"
  | stepBlocked direction cell => s!"step {direction.name} from {describeCell cell} blocked"
  | moveInterrupted => "keyboard input interrupted the scripted move"
  | distanceMeasured target distance =>
      s!"breadth-first distance to {describeCell target} is {describeDistance distance}"

/-- The severity and the wording on one line. -/
def line (note : Note) : String :=
  s!"{note.severity.name} {note.text}"

end Note

end GridWalk
