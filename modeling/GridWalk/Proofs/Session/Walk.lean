import GridWalk.Proofs.Movement.Replies
import GridWalk.Proofs.Search.Trail
import GridWalk.Proofs.World.Commands
import GridWalk.Session.Basic

/-!
# The walk of a session

The controller replays a route without looking at walls, and the world lets it. What makes this safe
is that nothing else moves the mover while a route is being replayed: the rest of the route always
leads on from where the mover stands. Each part of a script keeps to that, so the records of a whole
session tell of one walk over open cells.
-/

namespace GridWalk

/-! ## Walks -/

/-- The records tell, without a gap, how the first mover became the last one: it steps onto
neighbours that are not blocked, one frame later each time, turns toward those that are, and comes
to rest. -/
inductive Mover.Walk (size : GridSize) (isBlocked : Cell → Bool) :
    Mover → List Record → Mover → Prop where
  /-- Nothing is told. -/
  | stay (mover : Mover) : Walk size isBlocked mover [] mover
  /-- A step onto an open neighbour. -/
  | advance {mover last : Mover} {records : List Record} {direction : Direction} {target : Cell}
      (time : Duration) (stepped : direction.step size mover.cell = some target)
      (vacant : isBlocked target = false)
      (rest : Walk size isBlocked (mover.advance direction target) records last) :
      Walk size isBlocked mover (.event time
        (.moverAdvanced direction mover.cell target (WalkFrame.next mover.frame)) :: records) last
  /-- A turn toward a neighbour that cannot be entered. -/
  | bump {mover last : Mover} {records : List Record} {direction : Direction} (time : Duration)
      (stuck : ∀ target, direction.step size mover.cell = some target → isBlocked target = true)
      (rest : Walk size isBlocked { mover with facing := direction } records last) :
      Walk size isBlocked mover (.event time (.moverBlocked direction mover.cell) :: records) last
  /-- The end of a route. -/
  | settle {mover last : Mover} {records : List Record} (time : Duration)
      (rest : Walk size isBlocked mover.settle records last) :
      Walk size isBlocked mover (.event time (.moverSettled mover.cell) :: records) last
  /-- A request, which itself moves nothing. -/
  | request {mover last : Mover} {records : List Record} (target : Cell) (outcome : MoveOutcome)
      (shortest : Option Nat) (rest : Walk size isBlocked mover records last) :
      Walk size isBlocked mover (.request target outcome shortest :: records) last
  /-- The end of a route by a key press, which itself moves nothing. -/
  | interrupted {mover last : Mover} {records : List Record} (time : Duration)
      (rest : Walk size isBlocked mover records last) :
      Walk size isBlocked mover (.interrupted time :: records) last

namespace Mover.Walk

variable {size : GridSize} {isBlocked : Cell → Bool} {first middle last : Mover}
  {records later : List Record}

theorem append (walk : Walk size isBlocked first records middle)
    (onward : Walk size isBlocked middle later last) :
    Walk size isBlocked first (records ++ later) last := by
  induction walk with
  | stay mover => exact onward
  | advance time stepped vacant _ induction => exact .advance time stepped vacant (induction onward)
  | bump time stuck _ induction => exact .bump time stuck (induction onward)
  | settle time _ induction => exact .settle time (induction onward)
  | request target outcome shortest _ induction =>
      exact .request target outcome shortest (induction onward)
  | interrupted time _ induction => exact .interrupted time (induction onward)

/-- A mover that has left its first cell stands on an open one. -/
theorem cell_eq_or_vacant (walk : Walk size isBlocked first records last) :
    last.cell = first.cell ∨ isBlocked last.cell = false := by
  induction walk with
  | stay mover => exact Or.inl rfl
  | advance time stepped vacant _ induction =>
      rcases induction with same | open_cell
      · rw [same]
        exact Or.inr vacant
      · exact Or.inr open_cell
  | bump _ _ _ induction => exact induction
  | settle _ _ induction => exact induction
  | request _ _ _ _ induction => exact induction
  | interrupted _ _ induction => exact induction

end Mover.Walk

/-! ## Progress along a walk -/

namespace Session

variable {session : Session} {progress : Progress}

/-- While a move is in progress, the rest of its route leads on from where the mover stands. -/
def OnCourse (session : Session) : Prop :=
  ∀ move ∈ session.controller.active, (session.world.mover.cell :: move.route.cells).IsChain
    (OpenStep session.world.size session.world.isBlocked)

/-- Part of a script makes progress along a walk: of the world only the mover changes, the records
tell how, and the session stays on course. -/
structure Walks (session : Session) (progress : Progress) : Prop where
  /-- Of the world only the mover changes. -/
  world_eq : progress.session.world =
    { session.world with mover := progress.session.world.mover }
  /-- The records tell how the mover changes. -/
  walk : Mover.Walk session.world.size session.world.isBlocked session.world.mover progress.records
    progress.session.world.mover
  /-- The session stays on course. -/
  onCourse : progress.session.OnCourse

theorem onCourse_of_idle (idle : session.controller.active = none) : session.OnCourse := by
  intro move active
  rw [idle] at active
  cases active

namespace Walks

theorem size_eq (walks : session.Walks progress) :
    progress.session.world.size = session.world.size := by
  rw [walks.world_eq]

theorem isBlocked_eq (walks : session.Walks progress) :
    progress.session.world.isBlocked = session.world.isBlocked := by
  rw [walks.world_eq]
  rfl

theorem andThen {next : Session → Progress} (first : session.Walks progress)
    (second : progress.session.Walks (next progress.session)) :
    session.Walks (progress.andThen next) := by
  have onward := second.walk
  rw [first.size_eq, first.isBlocked_eq] at onward
  refine ⟨?_, first.walk.append onward, second.onCourse⟩
  change (next progress.session).session.world = _
  rw [second.world_eq, first.world_eq]
  rfl

/-- Where the world stays the same, so does the course, unless another move begins. -/
theorem of_world_eq (onCourse : session.OnCourse)
    (world_eq : progress.session.world = session.world)
    (active : ∀ move ∈ progress.session.controller.active, move ∈ session.controller.active)
    (walk : Mover.Walk session.world.size session.world.isBlocked session.world.mover
      progress.records session.world.mover) :
    session.Walks progress := by
  refine ⟨by rw [world_eq], by rwa [world_eq], ?_⟩
  intro move move_mem
  rw [world_eq]
  exact onCourse move (active move move_mem)

end Walks

/-! ## The parts of a script -/

theorem facing_of_step {direction : Direction} {size : GridSize} {cell next : Cell}
    (stepped : direction.step size cell = some next) :
    Controller.facing cell next = direction := by
  rw [Controller.facing, Direction.between_of_step stepped, Option.getD_some]

theorem walks_deliver (onCourse : session.OnCourse) (timer : TimerId) :
    session.Walks (session.deliver timer) := by
  have answer := session.controller.tick_case session.clock timer session.world.mover.cell
  rw [deliver]
  generalize session.controller.tick session.clock timer session.world.mover.cell = reply at answer
  cases answer with
  | stale foreign => exact .of_world_eq onCourse rfl (fun _ active => active) (.stay _)
  | finished active => exact ⟨rfl, .settle _ (.stay _), onCourse_of_idle rfl⟩
  | @advanced next rest active =>
      -- The next cell is a neighbour of the mover, so the facing is not the one of last resort.
      obtain ⟨⟨⟨direction, stepped⟩, vacant⟩, onward⟩ :=
        List.isChain_cons_cons.mp (onCourse _ active)
      rw [facing_of_step stepped]
      refine ⟨rfl, .advance _ stepped vacant (.stay _), ?_⟩
      rintro move ⟨⟩
      exact onward

/-- The answer of the controller to a request, which it is asked with the world as it is. -/
def moveReply (session : Session) (target : Cell) : MoveReply VirtualClock :=
  session.controller.moveTo session.clock session.world.mover.cell target session.world.size
    (Probe.ofPredicate session.world.isBlocked)

theorem moveReply_case (session : Session) (target : Cell) :
    session.controller.MoveCase session.clock session.world.mover.cell target session.world.size
      (Probe.ofPredicate session.world.isBlocked) (session.moveReply target) :=
  session.controller.moveTo_case session.clock session.world.mover.cell target session.world.size
    (Probe.ofPredicate session.world.isBlocked)

theorem request_eq (session : Session) (target : Cell) :
    session.request target =
      { session := { session with
          clock := (session.moveReply target).scheduler
          controller := (session.moveReply target).controller }
        records := [.request target (session.moveReply target).outcome
          (session.measure target (session.moveReply target).outcome).1]
        notes := (session.moveReply target).notes ++
          (session.measure target (session.moveReply target).outcome).2 } :=
  rfl

theorem walks_request (onCourse : session.OnCourse) (target : Cell) :
    session.Walks (session.request target) := by
  have answer := session.moveReply_case target
  rw [request_eq]
  generalize session.moveReply target = reply at answer
  cases answer with
  | ignored moving policy =>
      exact .of_world_eq onCourse rfl (fun _ active => active) (.request _ _ _ (.stay _))
  | unreachable allowed failed =>
      exact .of_world_eq onCourse rfl (fun _ active => active) (.request _ _ _ (.stay _))
  | alreadyThere allowed found =>
      exact ⟨rfl, .request _ _ _ (.stay _), onCourse_of_idle rfl⟩
  | started allowed found some_step =>
      refine ⟨rfl, .request _ _ _ (.stay _), ?_⟩
      rintro move ⟨⟩
      exact (SearchConfig.isRoute_of_findPath found).steps

theorem walks_interrupt (session : Session) : session.Walks session.interrupt := by
  rw [interrupt]
  cases active : session.controller.active with
  | none =>
      rw [Controller.stop_of_idle active]
      exact ⟨rfl, .stay _, onCourse_of_idle rfl⟩
  | some move =>
      rw [Controller.stop_of_walking active]
      exact ⟨rfl, .interrupted _ (.stay _), onCourse_of_idle rfl⟩

theorem active_interrupt (session : Session) :
    session.interrupt.session.controller.active = none := by
  rw [interrupt]
  split <;> rw [Controller.controller_stop, Controller.active_idle]

/-- A mover that follows no route may step wherever it likes. -/
theorem walks_stepMover (idle : session.controller.active = none) (direction : Direction) :
    session.Walks (session.apply [.stepMover direction]) := by
  simp only [apply, World.applyAll]
  have reacted := session.world.apply_case (.stepMover direction)
  generalize session.world.apply (.stepMover direction) = reaction at reacted
  cases reacted with
  | stepped step vacant => exact ⟨rfl, .advance _ step vacant (.stay _), onCourse_of_idle idle⟩
  | bumped stuck => exact ⟨rfl, .bump _ stuck (.stay _), onCourse_of_idle idle⟩

theorem walks_press (session : Session) (direction : Direction) :
    session.Walks (session.press direction) :=
  session.walks_interrupt.andThen (walks_stepMover session.active_interrupt direction)

theorem deliverWhile_of_ended {goesOn : Session → Bool} {limit : Duration}
    (ended : goesOn session = false ∨ session.clock.popDue? limit = none) :
    session.deliverWhile goesOn limit = ⟨session, [], []⟩ := by
  rw [deliverWhile]
  split
  · rename_i goes_on
    have nothing := ended.resolve_left (by simp [goes_on])
    split
    · rfl
    · rename_i popped
      rw [nothing] at popped
      cases popped
  · rfl

theorem deliverWhile_of_popDue?_eq_some {goesOn : Session → Bool} {limit : Duration}
    {firing : Firing} {clock : VirtualClock} (goes_on : goesOn session = true)
    (popped : session.clock.popDue? limit = some (firing, clock)) :
    session.deliverWhile goesOn limit =
      ({ session with clock := clock }.deliver firing.timer).andThen
        (deliverWhile goesOn limit) := by
  rw [deliverWhile, if_pos goes_on]
  split
  · rename_i nothing
    rw [popped] at nothing
    cases nothing
  · rename_i again
    obtain ⟨rfl, rfl⟩ := Prod.mk.inj (Option.some.inj (popped.symm.trans again))
    rfl

theorem walks_deliverWhile (goesOn : Session → Bool) (limit : Duration)
    (onCourse : session.OnCourse) : session.Walks (session.deliverWhile goesOn limit) := by
  fun_induction deliverWhile goesOn limit session with
  | case1 session goes_on popped => exact ⟨rfl, .stay _, onCourse⟩
  | case2 session goes_on firing clock popped progress rest induction =>
      have ticking : Session.OnCourse { session with clock := clock } := onCourse
      have ticked := walks_deliver ticking firing.timer
      have delivered : session.Walks progress := ⟨ticked.world_eq, ticked.walk, ticked.onCourse⟩
      change session.Walks (progress.andThen (deliverWhile goesOn limit))
      exact delivered.andThen (induction delivered.onCourse)
  | case3 session stopped => exact ⟨rfl, .stay _, onCourse⟩

theorem walks_waitUntil (onCourse : session.OnCourse) (limit : Duration) :
    session.Walks (session.waitUntil limit) := by
  have delivered := walks_deliverWhile (fun _ => true) limit onCourse
  exact delivered.andThen ⟨rfl, .stay _, delivered.onCourse⟩

theorem walks_perform (onCourse : session.OnCourse) (action : Action) :
    session.Walks (session.perform action) := by
  cases action with
  | moveTo target => exact walks_request onCourse target
  | wait ticks => exact walks_waitUntil onCourse _
  | key direction => exact session.walks_press direction

/-- What actions bring about one after another. -/
def performAll (session : Session) : List Action → Progress
  | [] => ⟨session, [], []⟩
  | action :: actions => (session.perform action).andThen (·.performAll actions)

theorem walks_performAll (onCourse : session.OnCourse) (actions : List Action) :
    session.Walks (session.performAll actions) := by
  induction actions generalizing session with
  | nil => exact ⟨rfl, .stay _, onCourse⟩
  | cons action actions induction =>
      have performed := walks_perform onCourse action
      exact performed.andThen (induction performed.onCourse)

/-- A session starts in the world that the commands of its layout build. -/
theorem world_start (layout : Layout) (settings : Settings) :
    (start layout settings).session.world = (World.initial.applyAll layout.commands).world := by
  have folded (commands : List Command) (world : World) (notes : List Note) :
      (commands.foldl (fun (state : World × List Note) command =>
        ((state.1.apply command).world, state.2 ++ (state.1.apply command).notes))
          (world, notes)).1 = (world.applyAll commands).world := by
    induction commands generalizing world notes with
    | nil => rfl
    | cons command commands induction => exact induction _ _
  exact folded layout.commands World.initial []

theorem onCourse_start (layout : Layout) (settings : Settings) :
    (start layout settings).session.OnCourse :=
  onCourse_of_idle rfl

end Session

end GridWalk
