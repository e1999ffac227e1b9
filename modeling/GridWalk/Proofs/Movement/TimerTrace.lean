import GridWalk.Proofs.Movement.Replies

/-!
# One timer at a time

A controller asks its scheduler for a timer when a move begins and gives that timer back when the
move ends, whichever way it ends. Over any sequence of calls, and whatever handles the scheduler
hands out, starts and stops therefore take turns, and the controller is moving just while a timer
has been handed out and not been given back.
-/

namespace GridWalk

variable {σ : Type} [Scheduler σ]

/-! ## Traces of a scheduler -/

/-- A call of a scheduler together with its answer. -/
inductive AnsweredCall where
  /-- A timer was asked for and handed out. -/
  | scheduled (period : Duration) (timer : TimerId)
  /-- A timer was stopped. -/
  | cancelled (timer : TimerId)
  deriving DecidableEq

/-- A scheduler that keeps a trace of the calls it answers. -/
structure Traced (σ : Type) where
  scheduler : σ
  /-- The calls so far, the first one first. -/
  trace : List AnsweredCall

instance : Scheduler (Traced σ) where
  schedule traced period :=
    ((Scheduler.schedule traced.scheduler period).1,
      ⟨(Scheduler.schedule traced.scheduler period).2,
        traced.trace ++ [.scheduled period (Scheduler.schedule traced.scheduler period).1]⟩)
  cancel traced timer :=
    ⟨Scheduler.cancel traced.scheduler timer, traced.trace ++ [.cancelled timer]⟩

/-- Starts and stops take turns, and each stop is that of the timer which the start just before it
handed out. The timer that is not stopped yet, if there is one, is `running`. -/
inductive Alternates : List AnsweredCall → (running : Option TimerId) → Prop where
  /-- Nothing has been asked of the scheduler. -/
  | nil : Alternates [] none
  /-- A timer is started while none is running. -/
  | scheduled {trace : List AnsweredCall} (period : Duration) (timer : TimerId)
      (resting : Alternates trace none) :
      Alternates (trace ++ [.scheduled period timer]) (some timer)
  /-- The timer that is running is stopped. -/
  | cancelled {trace : List AnsweredCall} {timer : TimerId}
      (running : Alternates trace (some timer)) :
      Alternates (trace ++ [.cancelled timer]) none

namespace Alternates

variable {trace : List AnsweredCall} {running : Option TimerId} {timer : TimerId}

/-- A timer is running exactly when the last call started it. -/
theorem running_eq_some_iff (alternates : Alternates trace running) :
    running = some timer ↔ ∃ period, trace.getLast? = some (.scheduled period timer) := by
  cases alternates with
  | nil => simp
  | scheduled period started resting => simp [eq_comm]
  | cancelled running => simp

end Alternates

/-! ## Controllers and their callers -/

/-- A call that a controller may receive. -/
inductive ControllerCall where
  | moveTo (mover target : Cell) (size : GridSize) (probe : Probe)
  /-- A timer has fired while the mover stands on a cell. -/
  | tick (timer : TimerId) (mover : Cell)
  /-- The move in progress is to end. -/
  | stop

/-- What a controller answers to a call. -/
inductive ControllerAnswer where
  | requested (outcome : MoveOutcome)
  | ticked (outcome : TickOutcome)
  /-- Whether a stop has ended a move. -/
  | stopped (stopped : Bool)
  deriving DecidableEq

namespace ControllerAnswer

/-- Whether the call was turned down: the request or the tick has come to nothing. -/
def isRefusal : ControllerAnswer → Bool
  | requested .ignored | requested (.unreachable _) | ticked .stale => true
  | _ => false

/-- Whether the call had nothing to do with timers: it was turned down, or it was a step of a move
in progress. -/
def isSilent : ControllerAnswer → Bool
  | ticked (.advanced ..) => true
  | answer => answer.isRefusal

theorem isSilent_of_isRefusal {answer : ControllerAnswer} (refusal : answer.isRefusal = true) :
    answer.isSilent = true := by
  unfold isSilent
  split
  · rfl
  · exact refusal

end ControllerAnswer

/-- A controller with the scheduler that it drives. -/
structure Host (σ : Type) where
  controller : Controller
  scheduler : σ

/-- What follows from a call of a controller. -/
structure HostReply (σ : Type) where
  /-- The controller and its scheduler afterwards. -/
  host : Host σ
  answer : ControllerAnswer
  commands : List Command

namespace Host

/-- A new controller, which has not been called yet. -/
def fresh (movement : MovementConfig) (search : SearchConfig) (scheduler : σ) : Host σ :=
  ⟨{ movement := movement, search := search }, scheduler⟩

/-- Calls the controller. -/
def call (host : Host σ) : ControllerCall → HostReply σ
  | .moveTo mover target size probe =>
      let reply := host.controller.moveTo host.scheduler mover target size probe
      ⟨⟨reply.controller, reply.scheduler⟩, .requested reply.outcome, []⟩
  | .tick timer mover =>
      let reply := host.controller.tick host.scheduler timer mover
      ⟨⟨reply.controller, reply.scheduler⟩, .ticked reply.outcome, reply.commands⟩
  | .stop =>
      let reply := host.controller.stop host.scheduler
      ⟨⟨reply.controller, reply.scheduler⟩, .stopped reply.stopped, []⟩

/-- Calls the controller time and again. -/
def callAll (host : Host σ) (calls : List ControllerCall) : Host σ :=
  calls.foldl (fun host call => (host.call call).host) host

/-! ## What a single call does -/

/-- How a host answers a call, as far as timers are concerned. -/
inductive CallCase (host : Host σ) : HostReply σ → Prop where
  | refused {answer : ControllerAnswer} (refusal : answer.isRefusal = true) :
      CallCase host ⟨host, answer, []⟩
  /-- The move in progress goes on by a step. -/
  | stepped {next : Cell} {rest : List Cell} {timer : TimerId} {direction : Direction}
      (active : host.controller.active = some ⟨⟨next :: rest⟩, timer⟩) :
      CallCase host
        ⟨⟨host.controller.walking ⟨⟨rest⟩, timer⟩, host.scheduler⟩,
          .ticked (.advanced direction next), [.advanceMover direction next]⟩
  /-- No move is in progress any more. -/
  | ended {answer : ControllerAnswer} {commands : List Command}
      (loud : answer.isSilent = false) :
      CallCase host
        ⟨⟨host.controller.idle, (host.controller.stop host.scheduler).scheduler⟩, answer, commands⟩
  /-- Another move is in progress. -/
  | started {route : Route} {steps : Nat} :
      CallCase host
        ⟨⟨host.controller.walking ⟨route,
            (Scheduler.schedule (host.controller.stop host.scheduler).scheduler
              host.controller.movement.tickInterval).1⟩,
          (Scheduler.schedule (host.controller.stop host.scheduler).scheduler
            host.controller.movement.tickInterval).2⟩,
          .requested (.started steps), []⟩

theorem call_case (host : Host σ) (call : ControllerCall) : host.CallCase (host.call call) := by
  cases call with
  | moveTo mover target size probe =>
      have answered := host.controller.moveTo_case host.scheduler mover target size probe
      rw [Host.call]
      generalize host.controller.moveTo host.scheduler mover target size probe = reply at answered
      cases answered with
      | ignored moving policy => exact .refused rfl
      | unreachable allowed failed => exact .refused rfl
      | alreadyThere allowed found => exact .ended rfl
      | started allowed found some_step => exact .started
  | tick timer mover =>
      have answered := host.controller.tick_case host.scheduler timer mover
      rw [Host.call]
      generalize host.controller.tick host.scheduler timer mover = reply at answered
      cases answered with
      | stale foreign => exact .refused rfl
      | finished active =>
          have stopped : Scheduler.cancel host.scheduler timer =
              (host.controller.stop host.scheduler).scheduler := by
            rw [Controller.stop_of_walking active]
          rw [stopped]
          exact .ended rfl
      | advanced active => exact .stepped active
  | stop =>
      simp only [Host.call, Controller.controller_stop]
      exact .ended rfl

/-- A call that has nothing to do with timers leaves the scheduler alone. -/
theorem scheduler_call_of_isSilent {host : Host σ} {call : ControllerCall}
    (silent : (host.call call).answer.isSilent = true) :
    (host.call call).host.scheduler = host.scheduler := by
  have answered := host.call_case call
  generalize host.call call = reply at answered silent
  cases answered with
  | refused refusal => rfl
  | stepped active => rfl
  | ended loud => exact absurd silent (by simp [loud])
  | started => cases silent

/-- A call that is turned down leaves the controller as it was and sends no commands. -/
theorem controller_call_of_isRefusal {host : Host σ} {call : ControllerCall}
    (refused : (host.call call).answer.isRefusal = true) :
    (host.call call).host.controller = host.controller ∧ (host.call call).commands = [] := by
  have answered := host.call_case call
  generalize host.call call = reply at answered refused
  cases answered with
  | refused refusal => exact ⟨rfl, rfl⟩
  | stepped active => cases refused
  | ended loud => exact absurd (ControllerAnswer.isSilent_of_isRefusal refused) (by simp [loud])
  | started => cases refused

/-! ## What every trace looks like -/

/-- The trace takes turns, and the timer that is running ticks for the move in progress. -/
def KeepsTurns (host : Host (Traced σ)) : Prop :=
  Alternates host.scheduler.trace host.controller.activeTimer?

/-- Behind a stop no timer is running. -/
theorem alternates_stop {host : Host (Traced σ)} (keeps : host.KeepsTurns) :
    Alternates (host.controller.stop host.scheduler).scheduler.trace none := by
  rw [KeepsTurns, Controller.activeTimer?] at keeps
  cases active : host.controller.active with
  | none =>
      rw [active] at keeps
      rw [Controller.stop_of_idle active]
      exact keeps
  | some move =>
      rw [active] at keeps
      rw [Controller.stop_of_walking active]
      exact .cancelled keeps

theorem keepsTurns_call {host : Host (Traced σ)} (keeps : host.KeepsTurns)
    (call : ControllerCall) : (host.call call).host.KeepsTurns := by
  have answered := host.call_case call
  generalize host.call call = reply at answered
  cases answered with
  | refused refusal => exact keeps
  | stepped active =>
      rw [KeepsTurns, Controller.activeTimer?, active] at keeps
      exact keeps
  | ended loud => exact alternates_stop keeps
  | started => exact .scheduled _ _ (alternates_stop keeps)

theorem keepsTurns_callAll {host : Host (Traced σ)} (keeps : host.KeepsTurns)
    (calls : List ControllerCall) : (host.callAll calls).KeepsTurns := by
  induction calls generalizing host with
  | nil => exact keeps
  | cons call calls induction => exact induction (keepsTurns_call keeps call)

/-! ## Tracing changes nothing -/

/-- The host without the trace of its scheduler. -/
def untraced (host : Host (Traced σ)) : Host σ :=
  ⟨host.controller, host.scheduler.scheduler⟩

theorem stop_untraced (host : Host (Traced σ)) :
    host.controller.stop host.scheduler.scheduler =
      let reply := host.controller.stop host.scheduler
      { reply with scheduler := reply.scheduler.scheduler } := by
  cases active : host.controller.active with
  | none => rw [Controller.stop_of_idle active, Controller.stop_of_idle active]
  | some move =>
      rw [Controller.stop_of_walking active, Controller.stop_of_walking active]
      rfl

theorem follow_untraced (host : Host (Traced σ)) (target : Cell) (route : Route) :
    host.controller.follow host.scheduler.scheduler target route =
      let reply := host.controller.follow host.scheduler target route
      { reply with scheduler := reply.scheduler.scheduler } := by
  obtain ⟨cells⟩ := route
  cases cells with
  | nil => rw [Controller.follow_nil, Controller.follow_nil, stop_untraced]
  | cons next rest =>
      rw [Controller.follow_cons, Controller.follow_cons, stop_untraced]
      rfl

theorem moveTo_untraced (host : Host (Traced σ)) (mover target : Cell) (size : GridSize)
    (probe : Probe) :
    host.controller.moveTo host.scheduler.scheduler mover target size probe =
      let reply := host.controller.moveTo host.scheduler mover target size probe
      { reply with scheduler := reply.scheduler.scheduler } := by
  unfold Controller.moveTo
  split
  · rfl
  · cases found : (host.controller.search.findPath size mover target probe).result with
    | error reason => simp only [found]
    | ok route => simp only [found, follow_untraced]

theorem tick_untraced (host : Host (Traced σ)) (timer : TimerId) (mover : Cell) :
    host.controller.tick host.scheduler.scheduler timer mover =
      let reply := host.controller.tick host.scheduler timer mover
      { reply with scheduler := reply.scheduler.scheduler } := by
  unfold Controller.tick
  split
  · rfl
  · split
    · simp only [stop_untraced]
    · rfl

/-- A call is answered in the same way whether or not the scheduler keeps a trace. -/
theorem call_untraced (host : Host (Traced σ)) (call : ControllerCall) :
    host.untraced.call call =
      let reply := host.call call
      { reply with host := reply.host.untraced } := by
  cases call with
  | moveTo mover target size probe => simp only [Host.call, untraced, moveTo_untraced]
  | tick timer mover => simp only [Host.call, untraced, tick_untraced]
  | stop => simp only [Host.call, untraced, stop_untraced]

theorem callAll_untraced (host : Host (Traced σ)) (calls : List ControllerCall) :
    host.untraced.callAll calls = (host.callAll calls).untraced := by
  induction calls generalizing host with
  | nil => rfl
  | cons call calls induction =>
      rw [callAll, List.foldl_cons, call_untraced]
      exact induction (host.call call).host

/-! ## All calls together -/

/-- The starts and stops of a controller's timers take turns, whatever it is asked and by whatever
scheduler it is served. It is moving exactly when the last call was a start, and a request that is
turned down calls nothing. -/
theorem timers_take_turns (movement : MovementConfig) (search : SearchConfig) (scheduler : σ)
    (calls : List ControllerCall) :
    let host := (fresh movement search (⟨scheduler, []⟩ : Traced σ)).callAll calls
    let trace := host.scheduler.trace
    Alternates trace host.controller.activeTimer? ∧
      (host.controller.isMoving = true ↔
        ∃ period timer, trace.getLast? = some (.scheduled period timer)) ∧
      (∀ period timer, trace.getLast? = some (.scheduled period timer) →
        host.controller.activeTimer? = some timer) ∧
      (∀ call, (host.call call).answer.isSilent = true →
        (host.call call).host.scheduler = host.scheduler) ∧
      (∀ call, (host.call call).answer.isRefusal = true →
        (host.call call).host.controller = host.controller ∧ (host.call call).commands = []) ∧
      host.untraced = (fresh movement search scheduler).callAll calls ∧
      (∀ call, (host.untraced.call call).answer = (host.call call).answer) := by
  intro host trace
  have first : (fresh movement search (⟨scheduler, []⟩ : Traced σ)).KeepsTurns := .nil
  have keeps : Alternates trace host.controller.activeTimer? := keepsTurns_callAll first calls
  refine ⟨keeps, ?_, ?_, ?_, ?_, ?_, ?_⟩
  · have moving_iff : host.controller.isMoving = true ↔
        ∃ timer, host.controller.activeTimer? = some timer := by
      rw [Controller.isMoving, Controller.activeTimer?, ← Option.isSome_iff_exists,
        Option.isSome_map]
    simp only [moving_iff, keeps.running_eq_some_iff]
    exact exists_comm
  · intro period timer last
    exact keeps.running_eq_some_iff.mpr ⟨period, last⟩
  · intro call
    exact scheduler_call_of_isSilent
  · intro call
    exact controller_call_of_isRefusal
  · exact (callAll_untraced (fresh movement search (⟨scheduler, []⟩ : Traced σ)) calls).symm
  · intro call
    rw [call_untraced]

end Host
end GridWalk
