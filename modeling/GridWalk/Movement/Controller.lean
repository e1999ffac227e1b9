import GridWalk.Clock.Scheduler
import GridWalk.Search.PathFinder
import GridWalk.World.Command

/-!
# The movement controller

Walks a mover along routes, one cell per tick. A route is planned once, when a move is asked for,
and then replayed without looking at walls again; a tick behind the last cell lets the mover settle.
The controller changes no world: it answers with commands, and it drives any scheduler through the
two calls that every scheduler has.
-/

namespace GridWalk

/-- What happens to a request that comes while a move is in progress. -/
inductive ConcurrentMovePolicy where
  /-- The request is refused. -/
  | ignore
  /-- The request takes over if it has a route. -/
  | supersede
  deriving DecidableEq, Repr

/-- The name of a policy. -/
def ConcurrentMovePolicy.name : ConcurrentMovePolicy → String
  | ignore => "Ignore"
  | supersede => "Supersede"

/-- The time between two steps when nobody has chosen one. -/
def standardTickInterval : Duration := Duration.ofMilliseconds 120

/-- The tunable part of movement. -/
structure MovementConfig where
  /-- The time between two steps. -/
  tickInterval : Duration := standardTickInterval
  /-- What happens to a request that comes while a move is in progress. -/
  concurrentMoves : ConcurrentMovePolicy := .ignore
  deriving DecidableEq

/-- The answer to a request for a move. -/
inductive MoveOutcome where
  /-- A move of so many steps began. -/
  | started (steps : Nat)
  /-- The mover stands on the target already. -/
  | alreadyThere
  /-- The request was refused because a move is in progress. -/
  | ignored
  /-- The request was refused because there is no route. -/
  | unreachable (reason : NoPath)
  deriving DecidableEq, Repr

/-- The answer to a tick. -/
inductive TickOutcome where
  /-- The mover goes one cell further. -/
  | advanced (direction : Direction) (target : Cell)
  /-- The route is used up and the move has ended. -/
  | finished
  /-- The tick belongs to no move in progress. -/
  | stale
  deriving DecidableEq, Repr

/-- A move in progress. -/
structure ActiveMove where
  /-- The cells still to be entered. -/
  route : Route
  /-- The timer that ticks for the move. -/
  timer : TimerId
  deriving DecidableEq, Repr

/-- The state of a controller. -/
structure Controller where
  /-- The tunable part of movement. -/
  movement : MovementConfig := {}
  /-- The tunable part of the searches. -/
  search : SearchConfig := {}
  /-- The move in progress. -/
  active : Option ActiveMove := none
  deriving DecidableEq

/-- What follows from a request for a move. -/
structure MoveReply (σ : Type) where
  /-- The controller afterwards. -/
  controller : Controller
  /-- The scheduler afterwards. -/
  scheduler : σ
  /-- The answer. -/
  outcome : MoveOutcome
  /-- Remarks, in order. -/
  notes : List Note

/-- What follows from a tick. -/
structure TickReply (σ : Type) where
  /-- The controller afterwards. -/
  controller : Controller
  /-- The scheduler afterwards. -/
  scheduler : σ
  /-- The answer. -/
  outcome : TickOutcome
  /-- The commands for the world. -/
  commands : List Command
  /-- Remarks, in order. -/
  notes : List Note

/-- What follows from stopping. -/
structure StopReply (σ : Type) where
  /-- The controller afterwards. -/
  controller : Controller
  /-- The scheduler afterwards. -/
  scheduler : σ
  /-- Whether a move was in progress. -/
  stopped : Bool

namespace Controller

/-- Whether a move is in progress. -/
def isMoving (controller : Controller) : Bool := controller.active.isSome

/-- How many cells are still to be entered. -/
def remainingSteps (controller : Controller) : Nat :=
  controller.active.elim 0 (·.route.length)

/-- The timer of the move in progress. -/
def activeTimer? (controller : Controller) : Option TimerId :=
  controller.active.map ActiveMove.timer

variable {σ : Type} [Scheduler σ]

/-- Ends the move in progress, if there is one, and cancels its timer. -/
def stop (controller : Controller) (scheduler : σ) : StopReply σ :=
  match controller.active with
  | none => ⟨controller, scheduler, false⟩
  | some move =>
      ⟨{ controller with active := none }, Scheduler.cancel scheduler move.timer, true⟩

/-- Begins to walk a route, ending the move in progress first. A route without steps begins
nothing. -/
def follow (controller : Controller) (scheduler : σ) (target : Cell) (route : Route) :
    MoveReply σ :=
  let stopped := controller.stop scheduler
  let notes := if stopped.stopped then [Note.moveSuperseded target] else []
  if route.isEmpty then
    ⟨stopped.controller, stopped.scheduler, .alreadyThere, notes⟩
  else
    let (timer, scheduler) :=
      Scheduler.schedule stopped.scheduler controller.movement.tickInterval
    { controller := { stopped.controller with active := some ⟨route, timer⟩ }
      scheduler := scheduler
      outcome := .started route.length
      notes := notes ++ [.moveStarted target route.length timer] }

/-- Asks for a move of the mover to `target`. A refused request changes nothing. -/
def moveTo (controller : Controller) (scheduler : σ) (mover target : Cell) (size : GridSize)
    (probe : Probe) : MoveReply σ :=
  if controller.isMoving ∧ controller.movement.concurrentMoves = .ignore then
    ⟨controller, scheduler, .ignored, [.requestIgnored target]⟩
  else
    let report := controller.search.findPath size mover target probe
    match report.result with
    | .error reason =>
        ⟨controller, scheduler, .unreachable reason,
          report.notes ++ [.requestDropped target reason]⟩
    | .ok route =>
        let reply := controller.follow scheduler target route
        { reply with notes := report.notes ++ reply.notes }

/-- The facing of an advance; a mover that stands on the target already looks south. -/
def facing (mover target : Cell) : Direction :=
  (Direction.between mover target).getD .south

/-- Answers the firing of a timer while the mover stands on `mover`. -/
def tick (controller : Controller) (scheduler : σ) (timer : TimerId) (mover : Cell) :
    TickReply σ :=
  match controller.active.filter (·.timer = timer) with
  | none => ⟨controller, scheduler, .stale, [], []⟩
  | some move =>
      match move.route.pop? with
      | none =>
          let stopped := controller.stop scheduler
          ⟨stopped.controller, stopped.scheduler, .finished, [.settleMover], [.arrived mover]⟩
      | some (next, rest) =>
          let direction := facing mover next
          { controller := { controller with active := some { move with route := rest } }
            scheduler := scheduler
            outcome := .advanced direction next
            commands := [.advanceMover direction next]
            notes := [] }

end Controller

end GridWalk
