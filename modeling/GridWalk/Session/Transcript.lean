import GridWalk.Session.Basic

/-!
# Transcripts

What a user reads of a session: a line on the grid, a line for each record worth one, and a line on
where the mover ends up. Times are whole milliseconds in six places or more.
-/

namespace GridWalk

/-- A cell as a pair. -/
def Cell.pair (cell : Cell) : String :=
  s!"({cell.column}, {cell.row})"

/-- How many places the milliseconds of a time take at least. -/
def timestampWidth : Nat := 6

/-- A time in whole milliseconds, which stand to the right of their places. -/
def Duration.timestamp (time : Duration) : String :=
  let written := toString time.milliseconds
  String.ofList (List.replicate (timestampWidth - written.length) ' ') ++ written ++ "ms"

/-- What became of a request. -/
def MoveOutcome.verdict (shortest : Option Nat) : MoveOutcome → String
  | started steps => s!"started, {steps} steps"
  | alreadyThere => "already there"
  | ignored => "ignored, a move is in progress"
  | unreachable reason =>
      match shortest with
      | some distance => s!"unreachable: {reason.message} (breadth-first distance {distance})"
      | none => s!"unreachable: {reason.message}"

/-- An event in words. Changes of the grid itself are not mentioned. -/
def Event.sentence? : Event → Option String
  | moverAdvanced direction source target frame =>
      some s!"{direction.name} {source.pair} -> {target.pair} frame {frame.val}"
  | moverBlocked direction cell => some s!"{direction.name} step from {cell.pair} blocked"
  | moverSettled cell => some s!"settled at {cell.pair}"
  | moverPlaced cell => some s!"placed at {cell.pair}"
  | moverPlacementRejected cell reason =>
      some s!"placement at {cell.pair} rejected: {reason.name}"
  | gridConfigured _ | cellBlockChanged .. => none

/-- The line of a record, if it is worth one. -/
def Record.line? : Record → Option String
  | .request target outcome shortest =>
      some s!"move to {target.pair}: {outcome.verdict shortest}"
  | .interrupted time => some s!"[{time.timestamp}] keyboard input stopped the scripted move"
  | .event time happened => happened.sentence?.map fun sentence => s!"[{time.timestamp}] {sentence}"

namespace Session

/-- The line on the grid that a session starts on. -/
def openingLine (session : Session) (layout : Layout) : String :=
  s!"map {layout.size.columns}x{layout.size.rows}, {layout.blockedCount} blocked cells, " ++
    s!"mover at {session.world.mover.cell.pair}"

/-- The line on where the mover is, also as a point, and how much time has passed. -/
def closingLine (session : Session) : String :=
  let mover := session.world.mover
  let (x, y) := session.world.moverOrigin
  s!"mover at {mover.cell.pair} facing {mover.facing.name} ({x.toPlain}, {y.toPlain}) " ++
    s!"after {session.elapsed.timestamp}"

/-- The transcript of a session on a layout that carries out actions and finishes. -/
def transcript (layout : Layout) (settings : Settings) (actions : List Action) : List String :=
  let session := (start layout settings).session
  let progress := session.replay actions
  session.openingLine layout ::
    progress.records.filterMap Record.line? ++ [progress.session.closingLine]

end Session

end GridWalk
