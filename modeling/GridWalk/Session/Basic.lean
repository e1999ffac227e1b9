import GridWalk.Clock.VirtualClock
import GridWalk.Layout.Basic
import GridWalk.Session.Action
import GridWalk.Settings
import GridWalk.World.DistanceField

/-!
# Sessions

A world, a virtual clock and a movement controller that work together, and a script that drives
them. Ticks are delivered as the clock fires, each before the next one fires. What happens is kept
as records in order.
-/

namespace GridWalk

/-- Something that happened in a session. -/
inductive Record where
  /-- A move was asked for. The breadth-first distance is there when the search ran out of budget
  and the target can be reached. -/
  | request (target : Cell) (outcome : MoveOutcome) (shortest : Option Nat)
  /-- A key press ended a scripted move. -/
  | interrupted (time : Duration)
  /-- The world changed. -/
  | event (time : Duration) (event : Event)
  deriving DecidableEq

/-- A world with a clock and a controller. -/
structure Session where
  /-- The world. -/
  world : World
  /-- The clock, which schedules the ticks of the controller. -/
  clock : VirtualClock
  /-- The controller. -/
  controller : Controller

/-- What a part of a script brings about. -/
structure Progress where
  /-- The session afterwards. -/
  session : Session
  /-- What happened, in order. -/
  records : List Record
  /-- Remarks, in order. -/
  notes : List Note

namespace Progress

/-- Progress behind which another part of a script makes more. -/
def andThen (first : Progress) (next : Session → Progress) : Progress :=
  let second := next first.session
  ⟨second.session, first.records ++ second.records, first.notes ++ second.notes⟩

end Progress

namespace Session

/-- A session in the world of a layout, and the remarks made while it is built. -/
def start (layout : Layout) (settings : Settings) : Progress :=
  let (world, notes) := layout.commands.foldl (fun (world, notes) command =>
    let reaction := world.apply command
    (reaction.world, notes ++ reaction.notes)) (World.initial, [])
  ⟨⟨world, .initial, { movement := settings.movement, search := settings.search }⟩, [], notes⟩

/-- The virtual time since the session started. -/
def elapsed (session : Session) : Duration := session.clock.now

/-- The time between two ticks. -/
def tickInterval (session : Session) : Duration := session.controller.movement.tickInterval

/-- Carries out commands in the world and records the events. -/
def apply (session : Session) (commands : List Command) : Progress :=
  let reaction := session.world.applyAll commands
  ⟨{ session with world := reaction.world },
    reaction.events.map (.event session.clock.now), reaction.notes⟩

/-- Tells the controller of a firing and carries out its commands. -/
def deliver (session : Session) (timer : TimerId) : Progress :=
  let reply := session.controller.tick session.clock timer session.world.mover.cell
  let ticked : Session :=
    { session with clock := reply.scheduler, controller := reply.controller }
  let progress := ticked.apply reply.commands
  { progress with notes := reply.notes ++ progress.notes }

/-! ## Requests and keys -/

/-- The breadth-first distance to a target that a search gave up on, with a remark. -/
def measure (session : Session) (target : Cell) : MoveOutcome → Option Nat × List Note
  | .unreachable (.iterationCap _) =>
      let field := session.world.distanceField session.world.mover.cell
      let distance := field.distance? target
      (distance, [.distanceMeasured target distance])
  | _ => (none, [])

/-- Asks the controller to walk to a cell. -/
def request (session : Session) (target : Cell) : Progress :=
  let world := session.world
  let reply := session.controller.moveTo session.clock world.mover.cell target world.size
    (Probe.ofPredicate world.isBlocked)
  let (shortest, notes) := session.measure target reply.outcome
  ⟨{ session with clock := reply.scheduler, controller := reply.controller },
    [.request target reply.outcome shortest], reply.notes ++ notes⟩

/-- Ends the move in progress, if there is one. -/
def interrupt (session : Session) : Progress :=
  let reply := session.controller.stop session.clock
  let stopped : Session :=
    { session with clock := reply.scheduler, controller := reply.controller }
  if reply.stopped then
    ⟨stopped, [.interrupted session.clock.now], [.moveInterrupted]⟩
  else
    ⟨stopped, [], []⟩

/-- Presses the key of a direction: the move in progress ends and the mover steps. -/
def press (session : Session) (direction : Direction) : Progress :=
  session.interrupt.andThen (·.apply [.stepMover direction])

/-! ## Passing time -/

/-- Delivering a tick schedules nothing, so it adds nothing to the clock's backlog. -/
theorem backlog_deliver_le (session : Session) (timer : TimerId) (limit : Duration) :
    (session.deliver timer).session.clock.backlog limit ≤ session.clock.backlog limit := by
  unfold deliver Controller.tick
  split
  · exact Nat.le_refl _
  · split
    · unfold Controller.stop
      dsimp only [apply]
      split
      · exact Nat.le_refl _
      · exact VirtualClock.backlog_cancel_le _ _ _
    · exact Nat.le_refl _

/-- Delivers the firing that is popped next, if one is due by `limit` and the session has not come
to its end, and goes on so. -/
def deliverWhile (goesOn : Session → Bool) (limit : Duration) (session : Session) : Progress :=
  if goesOn session then
    match _popped : session.clock.popDue? limit with
    | none => ⟨session, [], []⟩
    | some (firing, clock) =>
        let progress := { session with clock := clock }.deliver firing.timer
        let rest := deliverWhile goesOn limit progress.session
        ⟨rest.session, progress.records ++ rest.records, progress.notes ++ rest.notes⟩
  else
    ⟨session, [], []⟩
termination_by session.clock.backlog limit
decreasing_by
  have popped := VirtualClock.backlog_popDue?_lt ‹_›
  exact Nat.lt_of_le_of_lt (backlog_deliver_le _ _ _) popped

/-- Delivers everything due by `limit` and moves time forward to it. What fires in a second stretch
up to `limit` would be delivered as well, but nothing does (`advanceTo_deliverWhile`). -/
def waitUntil (session : Session) (limit : Duration) : Progress :=
  (session.deliverWhile (fun _ => true) limit).andThen fun session =>
    ⟨{ session with clock := session.clock.moveTo limit }, [], []⟩

/-- Lets a number of tick intervals pass. -/
def wait (session : Session) (ticks : UInt32) : Progress :=
  session.waitUntil
    (session.elapsed.saturatingAdd (session.tickInterval.saturatingMul ticks.toNat))

/-- Carries out one action. -/
def perform (session : Session) : Action → Progress
  | .moveTo target => session.request target
  | .wait ticks => session.wait ticks
  | .key direction => session.press direction

/-- Delivers ticks until the controller is at rest or no tick will come. -/
def finish (session : Session) : Progress :=
  session.deliverWhile (·.controller.isMoving) .longest

/-- Carries out actions one after another and then finishes. -/
def replay (session : Session) : List Action → Progress
  | [] => session.finish
  | action :: actions => (session.perform action).andThen (·.replay actions)

end Session

end GridWalk
