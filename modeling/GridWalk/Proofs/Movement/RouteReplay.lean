import GridWalk.Clock.VirtualClock
import GridWalk.Proofs.Grid.OpenStep
import GridWalk.Proofs.Movement.TimerTrace

/-!
# Routes replayed by ticks

A move that has begun is left to itself as long as the controller only hears of firings, its own and
others, and of requests that it turns down. Its route is then entered cell by cell, one for each
firing of its timer and none for anything else, and one firing more lets the mover settle. The
number of firings says how much of the route is left; everything else follows from it.
-/

namespace GridWalk

variable {σ : Type} [Scheduler σ]

/-- Whether the call brings a firing of the timer. -/
def ControllerCall.brings (timer : TimerId) : ControllerCall → Bool
  | tick fired _ => fired = timer
  | _ => false

/-- Whether the command moves the mover along a planned route. -/
def Command.isAdvance : Command → Bool
  | advanceMover .. => true
  | _ => false

/-- The direction in which a mover enters a cell: south if it stands there already. -/
def Enters (mover next : Cell) (direction : Direction) : Prop :=
  if mover = next then direction = .south else Direction.between mover next = some direction

/-- The commands that a call is to send if it follows `count` firings of the timer that ticks for a
route. -/
inductive Due (cells : List Cell) (timer : TimerId) (count : Nat) :
    ControllerCall → List Command → Prop where
  /-- The mover enters the next cell of the route. -/
  | advance {mover next : Cell} {direction : Direction} (onward : cells[count]? = some next)
      (enters : Enters mover next direction) :
      Due cells timer count (.tick timer mover) [.advanceMover direction next]
  /-- All cells have been entered. -/
  | settle {mover : Cell} (done : count = cells.length) :
      Due cells timer count (.tick timer mover) [.settleMover]
  /-- The mover has settled before. -/
  | late {mover : Cell} (settled : cells.length < count) :
      Due cells timer count (.tick timer mover) []
  | foreign {fired : TimerId} {mover : Cell} (foreign : fired ≠ timer) :
      Due cells timer count (.tick fired mover) []
  | request {mover target : Cell} {size : GridSize} {probe : Probe} :
      Due cells timer count (.moveTo mover target size probe) []

namespace Controller

variable {controller : Controller} {cells : List Cell} {timer : TimerId} {count : Nat}

/-- The controller replays the route and has heard of `count` firings of the timer: so many cells
are gone, and behind the firing that follows the last cell the move is over. -/
def Replays (cells : List Cell) (timer : TimerId) (count : Nat) (controller : Controller) : Prop :=
  controller.active = if count ≤ cells.length then some ⟨⟨cells.drop count⟩, timer⟩ else none

theorem Replays.of_active {left : List Cell} {ticking : TimerId}
    (replays : controller.Replays cells timer count)
    (active : controller.active = some ⟨⟨left⟩, ticking⟩) :
    count ≤ cells.length ∧ left = cells.drop count ∧ ticking = timer := by
  rw [Replays, active] at replays
  split at replays
  · rename_i within
    simp only [Option.some.injEq, ActiveMove.mk.injEq, Route.mk.injEq] at replays
    exact ⟨within, replays⟩
  · cases replays

theorem Replays.isMoving_iff (replays : controller.Replays cells timer count) :
    controller.isMoving = true ↔ count ≤ cells.length := by
  rw [isMoving, replays]
  split <;> simp_all

theorem enters_facing (mover next : Cell) : Enters mover next (facing mover next) := by
  rw [Enters, facing]
  split
  · rename_i same
    rw [Direction.between_eq_none_iff.mpr same]
    rfl
  · rename_i apart
    obtain ⟨direction, faced⟩ :=
      Option.ne_none_iff_exists'.mp (mt Direction.between_eq_none_iff.mp apart)
    rw [faced]
    rfl

end Controller

namespace Host

open Controller

variable {host : Host σ} {cells : List Cell} {timer : TimerId} {count : Nat}
  {call : ControllerCall} {calls later : List ControllerCall}

/-- The commands that calls send, in order. -/
def commands (host : Host σ) : List ControllerCall → List Command
  | [] => []
  | call :: calls => (host.call call).commands ++ (host.call call).host.commands calls

/-- Calls that leave a move to itself: firings of whatever timers, and requests that are turned
down. -/
inductive LeftAlone : Host σ → List ControllerCall → Prop where
  | nil {host : Host σ} : LeftAlone host []
  | tick {host : Host σ} {fired : TimerId} {mover : Cell} {calls : List ControllerCall}
      (rest : LeftAlone (host.call (.tick fired mover)).host calls) :
      LeftAlone host (.tick fired mover :: calls)
  | request {host : Host σ} {mover target : Cell} {size : GridSize} {probe : Probe}
      {calls : List ControllerCall}
      (refused : (host.call (.moveTo mover target size probe)).answer.isRefusal = true)
      (rest : LeftAlone (host.call (.moveTo mover target size probe)).host calls) :
      LeftAlone host (.moveTo mover target size probe :: calls)

theorem LeftAlone.append (alone : host.LeftAlone (calls ++ later)) :
    host.LeftAlone calls ∧ (host.callAll calls).LeftAlone later := by
  induction calls generalizing host with
  | nil => exact ⟨.nil, alone⟩
  | cons call calls induction =>
      cases alone with
      | tick rest => exact ⟨.tick (induction rest).1, (induction rest).2⟩
      | request refused rest => exact ⟨.request refused (induction rest).1, (induction rest).2⟩

/-! ## A single call -/

/-- A firing of the timer takes the replay one step further, any other leaves it where it is. -/
theorem replays_tick (replays : host.controller.Replays cells timer count) (fired : TimerId)
    (mover : Cell) :
    (host.call (.tick fired mover)).host.controller.Replays cells timer
        (if fired = timer then count + 1 else count) ∧
      Due cells timer count (.tick fired mover) (host.call (.tick fired mover)).commands := by
  have answered := host.controller.tick_case host.scheduler fired mover
  rw [call]
  generalize host.controller.tick host.scheduler fired mover = reply at answered
  cases answered with
  | stale foreign =>
      by_cases same : fired = timer
      · -- Only when the move is over, its timer ticks for no move.
        have settled : cells.length < count := by
          by_contra within
          rw [Replays, if_pos (Nat.le_of_not_lt within)] at replays
          exact foreign _ replays same.symm
        rw [if_pos same, same]
        refine ⟨?_, .late settled⟩
        rw [Replays, if_neg (by omega)] at replays ⊢
        exact replays
      · rw [if_neg same]
        exact ⟨replays, .foreign same⟩
  | finished active =>
      obtain ⟨within, nothing, rfl⟩ := replays.of_active active
      have done : cells.length ≤ count := List.drop_eq_nil_iff.mp nothing.symm
      rw [if_pos rfl]
      refine ⟨?_, .settle (by omega)⟩
      rw [Replays, if_neg (by omega)]
      rfl
  | @advanced next rest active =>
      obtain ⟨within, rest_eq, rfl⟩ := replays.of_active active
      have onward : cells[count]? = some next := by
        rw [← List.head?_drop, ← rest_eq, List.head?_cons]
      have behind : rest = cells.drop (count + 1) := by
        rw [← List.tail_drop, ← rest_eq, List.tail_cons]
      have more : count < cells.length := (List.getElem?_eq_some_iff.mp onward).1
      rw [if_pos rfl]
      refine ⟨?_, .advance onward (enters_facing mover next)⟩
      rw [Replays, if_pos (Nat.succ_le_of_lt more), ← behind]
      rfl

theorem due_of_leftAlone (replays : host.controller.Replays cells timer count)
    (alone : host.LeftAlone [call]) : Due cells timer count call (host.call call).commands := by
  cases alone with
  | tick rest => exact (replays_tick replays _ _).2
  | request refused rest =>
      rw [(controller_call_of_isRefusal refused).2]
      exact .request

/-- Every advance uses up one step of the route, and nothing else does. -/
theorem remainingSteps_tick (host : Host σ) (fired : TimerId) (mover : Cell) :
    (host.call (.tick fired mover)).host.controller.remainingSteps +
        (host.call (.tick fired mover)).commands.countP Command.isAdvance =
      host.controller.remainingSteps := by
  have answered := host.controller.tick_case host.scheduler fired mover
  rw [call]
  generalize host.controller.tick host.scheduler fired mover = reply at answered
  cases answered with
  | stale foreign => rfl
  | finished active =>
      rw [remainingSteps, remainingSteps, active]
      rfl
  | advanced active =>
      rw [remainingSteps, remainingSteps, active]
      rfl

/-! ## Calls one after another -/

theorem replays_callAll (replays : host.controller.Replays cells timer count)
    (alone : host.LeftAlone calls) :
    (host.callAll calls).controller.Replays cells timer
      (count + calls.countP (·.brings timer)) := by
  induction alone generalizing count with
  | nil => exact replays
  | @tick host fired mover calls rest induction =>
      have goes_on := induction (replays_tick replays fired mover).1
      rw [List.countP_cons, callAll, List.foldl_cons]
      simp only [ControllerCall.brings, decide_eq_true_eq]
      split at goes_on
      · rename_i same
        rw [if_pos same]
        rwa [Nat.add_assoc, Nat.add_comm 1] at goes_on
      · rename_i foreign
        rwa [if_neg foreign]
  | @request host mover target size probe calls refused rest induction =>
      rw [List.countP_cons_of_neg (by simp [ControllerCall.brings]), callAll, List.foldl_cons]
      refine induction ?_
      rw [(controller_call_of_isRefusal refused).1]
      exact replays

theorem remainingSteps_callAll (alone : host.LeftAlone calls) :
    (host.callAll calls).controller.remainingSteps +
        (host.commands calls).countP Command.isAdvance =
      host.controller.remainingSteps := by
  induction alone with
  | nil => rfl
  | @tick host fired mover calls rest induction =>
      have first := host.remainingSteps_tick fired mover
      rw [callAll] at induction
      rw [callAll, List.foldl_cons, commands, List.countP_append]
      omega
  | @request host mover target size probe calls refused rest induction =>
      obtain ⟨controller_eq, commands_eq⟩ := controller_call_of_isRefusal refused
      rw [callAll, controller_eq] at induction
      rw [callAll, List.foldl_cons, commands, commands_eq]
      exact induction

/-- A move that is left to itself enters the cells of its route one after another, one for each
firing of its timer, with the next firing settles, and sends no other command. -/
theorem replay_enters_route (controller : Controller) (scheduler : σ) (mover target : Cell)
    (size : GridSize) (probe : Probe) (steps : Nat)
    (started : (controller.moveTo scheduler mover target size probe).outcome = .started steps) :
    let reply := controller.moveTo scheduler mover target size probe
    let host : Host σ := ⟨reply.controller, reply.scheduler⟩
    ∃ route timer,
      (controller.search.findPath size mover target probe).result = .ok route ∧
      route.length = steps ∧ 1 ≤ steps ∧ host.controller.activeTimer? = some timer ∧
      ∀ calls, host.LeftAlone calls →
        let later := host.callAll calls
        let firings := calls.countP (·.brings timer)
        (∀ call, host.LeftAlone (calls ++ [call]) →
          Due route.cells timer firings call (later.call call).commands) ∧
        later.controller.remainingSteps + (host.commands calls).countP Command.isAdvance = steps ∧
        (later.controller.isMoving = true ↔ firings ≤ steps) := by
  intro reply host
  have answered : controller.MoveCase scheduler mover target size probe reply :=
    controller.moveTo_case scheduler mover target size probe
  have outcome_eq : reply.outcome = .started steps := started
  clear_value reply
  cases answered with
  | ignored => cases outcome_eq
  | unreachable => cases outcome_eq
  | alreadyThere => cases outcome_eq
  | @started route notes allowed found some_step =>
      cases outcome_eq
      have positive : 1 ≤ route.length := List.length_pos_iff.mpr some_step
      refine ⟨route, _, found, rfl, positive, rfl, ?_⟩
      intro calls alone later firings
      have first : host.controller.Replays route.cells _ 0 := (if_pos (Nat.zero_le _)).symm
      have replays := replays_callAll first alone
      rw [Nat.zero_add] at replays
      refine ⟨?_, remainingSteps_callAll alone, replays.isMoving_iff⟩
      intro call alone
      exact due_of_leftAlone replays alone.append.2

/-- The firing of another timer and a request that is refused come between the first two firings of
a move's timer, each of which lets the mover enter a cell. -/
theorem replay_enters_route_past_request :
    let size : GridSize := ⟨2, 2⟩
    let vacant := Probe.ofPredicate fun _ => false
    let reply := ({} : Controller).moveTo VirtualClock.initial ⟨0, 0⟩ ⟨1, 1⟩ size vacant
    let host : Host VirtualClock := ⟨reply.controller, reply.scheduler⟩
    let calls : List ControllerCall :=
      [.tick ⟨0⟩ ⟨0, 0⟩, .tick ⟨7⟩ ⟨0, 1⟩, .moveTo ⟨0, 1⟩ ⟨0, 0⟩ size vacant]
    let onward : ControllerCall := .tick ⟨0⟩ ⟨0, 1⟩
    reply.outcome = .started 2 ∧ host.LeftAlone (calls ++ [onward]) ∧
      Due [⟨0, 1⟩, ⟨1, 1⟩] ⟨0⟩ 1 onward ((host.callAll calls).call onward).commands := by
  intro size vacant reply host calls onward
  have started : reply.outcome = .started 2 := by decide +kernel
  have alone : host.LeftAlone calls := .tick (.tick (.request (by decide +kernel) .nil))
  have alone_onward : host.LeftAlone (calls ++ [onward]) :=
    .tick (.tick (.request (by decide +kernel) (.tick .nil)))
  obtain ⟨route, timer, found, -, -, active, replayed⟩ :=
    replay_enters_route {} VirtualClock.initial ⟨0, 0⟩ ⟨1, 1⟩ size vacant 2 started
  obtain rfl : (⟨0⟩ : TimerId) = timer := by
    have issued : host.controller.activeTimer? = some ⟨0⟩ := by decide +kernel
    exact Option.some.inj (issued.symm.trans active)
  obtain rfl : (⟨[⟨0, 1⟩, ⟨1, 1⟩]⟩ : Route) = route := by
    have planned : (({} : SearchConfig).findPath size ⟨0, 0⟩ ⟨1, 1⟩ vacant).result =
        .ok ⟨[⟨0, 1⟩, ⟨1, 1⟩]⟩ := by decide +kernel
    exact Except.ok.inj (planned.symm.trans found)
  exact ⟨started, alone_onward, (replayed calls alone).1 onward alone_onward⟩

end Host
end GridWalk
