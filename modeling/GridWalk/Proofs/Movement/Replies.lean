import GridWalk.Movement.Controller

/-!
# The replies of a controller

Every way in which a controller answers a request, a tick and a stop, with all that follows from it.
Whatever holds of controllers is shown from these cases; the definitions need not be opened again.
-/

namespace GridWalk
namespace Controller

variable {σ : Type} [Scheduler σ] {controller : Controller} {scheduler : σ}

/-- The controller without a move in progress. -/
def idle (controller : Controller) : Controller := { controller with active := none }

/-- The controller with a move in progress. -/
def walking (controller : Controller) (move : ActiveMove) : Controller :=
  { controller with active := some move }

@[simp]
theorem active_idle (controller : Controller) : controller.idle.active = none := rfl

/-! ## Stops -/

theorem stop_of_idle (active : controller.active = none) :
    controller.stop scheduler = ⟨controller.idle, scheduler, false⟩ := by
  obtain ⟨movement, search, _⟩ := controller
  cases active
  rfl

theorem stop_of_walking {move : ActiveMove} (active : controller.active = some move) :
    controller.stop scheduler =
      ⟨controller.idle, Scheduler.cancel scheduler move.timer, true⟩ := by
  rw [stop, active]
  rfl

@[simp]
theorem controller_stop (controller : Controller) (scheduler : σ) :
    (controller.stop scheduler).controller = controller.idle := by
  cases active : controller.active with
  | none => rw [stop_of_idle active]
  | some move => rw [stop_of_walking active]

/-! ## Ticks -/

theorem tick_of_foreign {timer : TimerId} (foreign : ∀ move ∈ controller.active, move.timer ≠ timer)
    (mover : Cell) :
    controller.tick scheduler timer mover = ⟨controller, scheduler, .stale, [], []⟩ := by
  have ticking : controller.active.filter (·.timer = timer) = none := by
    simpa [Option.filter_eq_none_iff] using foreign
  rw [tick, ticking]

theorem tick_of_nil {timer : TimerId} (active : controller.active = some ⟨⟨[]⟩, timer⟩)
    (mover : Cell) :
    controller.tick scheduler timer mover =
      ⟨controller.idle, Scheduler.cancel scheduler timer, .finished, [.settleMover],
        [.arrived mover]⟩ := by
  have ticking : controller.active.filter (·.timer = timer) = some ⟨⟨[]⟩, timer⟩ := by
    simp [active]
  rw [tick, ticking]
  dsimp only [Route.pop?]
  rw [stop_of_walking active]

theorem tick_of_cons {timer : TimerId} {next : Cell} {rest : List Cell}
    (active : controller.active = some ⟨⟨next :: rest⟩, timer⟩) (mover : Cell) :
    controller.tick scheduler timer mover =
      ⟨controller.walking ⟨⟨rest⟩, timer⟩, scheduler, .advanced (facing mover next) next,
        [.advanceMover (facing mover next) next], []⟩ := by
  have ticking : controller.active.filter (·.timer = timer) = some ⟨⟨next :: rest⟩, timer⟩ := by
    simp [active]
  rw [tick, ticking]
  rfl

/-- How a controller answers the firing of a timer while the mover stands on a cell. -/
inductive TickCase (controller : Controller) (scheduler : σ) (timer : TimerId) (mover : Cell) :
    TickReply σ → Prop where
  /-- The timer ticks for no move in progress. -/
  | stale (foreign : ∀ move ∈ controller.active, move.timer ≠ timer) :
      TickCase controller scheduler timer mover ⟨controller, scheduler, .stale, [], []⟩
  /-- The route is used up. -/
  | finished (active : controller.active = some ⟨⟨[]⟩, timer⟩) :
      TickCase controller scheduler timer mover
        ⟨controller.idle, Scheduler.cancel scheduler timer, .finished, [.settleMover],
          [.arrived mover]⟩
  /-- The route goes on. -/
  | advanced {next : Cell} {rest : List Cell}
      (active : controller.active = some ⟨⟨next :: rest⟩, timer⟩) :
      TickCase controller scheduler timer mover
        ⟨controller.walking ⟨⟨rest⟩, timer⟩, scheduler, .advanced (facing mover next) next,
          [.advanceMover (facing mover next) next], []⟩

theorem tick_case (controller : Controller) (scheduler : σ) (timer : TimerId) (mover : Cell) :
    controller.TickCase scheduler timer mover (controller.tick scheduler timer mover) := by
  cases ticking : controller.active.filter (·.timer = timer) with
  | none =>
      have foreign : ∀ move ∈ controller.active, move.timer ≠ timer := by
        simpa [Option.filter_eq_none_iff] using ticking
      rw [tick_of_foreign foreign]
      exact .stale foreign
  | some move =>
      obtain ⟨active, same⟩ := Option.filter_eq_some_iff.mp ticking
      obtain ⟨⟨cells⟩, _⟩ := move
      obtain rfl := of_decide_eq_true same
      cases cells with
      | nil =>
          rw [tick_of_nil active]
          exact .finished active
      | cons next rest =>
          rw [tick_of_cons active]
          exact .advanced active

/-! ## Requests -/

/-- How a controller answers a request for a move of the mover to a target. -/
inductive MoveCase (controller : Controller) (scheduler : σ) (mover target : Cell)
    (size : GridSize) (probe : Probe) : MoveReply σ → Prop where
  /-- A move is in progress and keeps its place. -/
  | ignored (moving : controller.isMoving = true)
      (policy : controller.movement.concurrentMoves = .ignore) :
      MoveCase controller scheduler mover target size probe
        ⟨controller, scheduler, .ignored, [.requestIgnored target]⟩
  /-- There is no route. -/
  | unreachable {reason : NoPath} {notes : List Note}
      (allowed : controller.isMoving = true → controller.movement.concurrentMoves = .supersede)
      (failed : (controller.search.findPath size mover target probe).result = .error reason) :
      MoveCase controller scheduler mover target size probe
        ⟨controller, scheduler, .unreachable reason, notes⟩
  /-- The route has no steps; a move that was in progress ends. -/
  | alreadyThere {notes : List Note}
      (allowed : controller.isMoving = true → controller.movement.concurrentMoves = .supersede)
      (found : (controller.search.findPath size mover target probe).result = .ok ⟨[]⟩) :
      MoveCase controller scheduler mover target size probe
        ⟨controller.idle, (controller.stop scheduler).scheduler, .alreadyThere, notes⟩
  /-- A move begins; one that was in progress ends first. -/
  | started {route : Route} {notes : List Note}
      (allowed : controller.isMoving = true → controller.movement.concurrentMoves = .supersede)
      (found : (controller.search.findPath size mover target probe).result = .ok route)
      (some_step : route.cells ≠ []) :
      MoveCase controller scheduler mover target size probe
        ⟨controller.walking ⟨route,
            (Scheduler.schedule (controller.stop scheduler).scheduler
              controller.movement.tickInterval).1⟩,
          (Scheduler.schedule (controller.stop scheduler).scheduler
            controller.movement.tickInterval).2,
          .started route.length, notes⟩

theorem follow_nil (controller : Controller) (scheduler : σ) (target : Cell) :
    controller.follow scheduler target ⟨[]⟩ =
      { controller := controller.idle
        scheduler := (controller.stop scheduler).scheduler
        outcome := .alreadyThere
        notes :=
          if (controller.stop scheduler).stopped then [.moveSuperseded target] else [] } := by
  rw [follow, controller_stop]
  rfl

theorem follow_cons (controller : Controller) (scheduler : σ) (target next : Cell)
    (rest : List Cell) :
    let (timer, scheduled) := Scheduler.schedule (controller.stop scheduler).scheduler
      controller.movement.tickInterval
    controller.follow scheduler target ⟨next :: rest⟩ =
      { controller := controller.walking ⟨⟨next :: rest⟩, timer⟩
        scheduler := scheduled
        outcome := .started (rest.length + 1)
        notes := (if (controller.stop scheduler).stopped then [.moveSuperseded target] else []) ++
          [.moveStarted target (rest.length + 1) timer] } := by
  dsimp only
  rw [follow, controller_stop]
  rfl

theorem moveTo_case (controller : Controller) (scheduler : σ) (mover target : Cell)
    (size : GridSize) (probe : Probe) :
    controller.MoveCase scheduler mover target size probe
      (controller.moveTo scheduler mover target size probe) := by
  by_cases busy : controller.isMoving ∧ controller.movement.concurrentMoves = .ignore
  · rw [moveTo, if_pos busy]
    exact .ignored busy.1 busy.2
  · have allowed : controller.isMoving = true →
        controller.movement.concurrentMoves = .supersede := by
      intro moving
      cases policy : controller.movement.concurrentMoves with
      | ignore => exact (busy ⟨moving, policy⟩).elim
      | supersede => rfl
    rw [moveTo, if_neg busy]
    cases found : (controller.search.findPath size mover target probe).result with
    | error reason =>
        simp only [found]
        exact .unreachable allowed found
    | ok route =>
        simp only [found]
        obtain ⟨cells⟩ := route
        cases cells with
        | nil =>
            rw [follow_nil]
            exact .alreadyThere allowed found
        | cons next rest =>
            rw [follow_cons]
            exact .started allowed found (List.cons_ne_nil next rest)

end Controller
end GridWalk
