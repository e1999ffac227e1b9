import GridWalk.Proofs.Clock.Merge
import GridWalk.Proofs.Movement.RouteReplay
import GridWalk.Proofs.Session.Walk

/-!
# The mover and the edges of its grid

A host may replace the grid at any time, also while a route is being replayed that was planned on
the old one. The mover itself is pulled onto the new grid, but nobody looks at the rest of the
route, and the mover follows it over the edge. The main statement says that there is no other way
out of a grid, whatever hosts, controller and clock do and in whatever order.
-/

namespace GridWalk

/-- Whether the command replaces the grid: a grid without cells is refused. -/
def Command.replacesGrid : Command → Bool
  | configureGrid size _ => !size.isEmpty
  | _ => false

/-- What a command makes of the grid and of the mover's place on it. -/
inductive World.EdgeCase (world : World) : Command → World → Prop where
  /-- The grid is replaced, and the mover is put onto the new one. -/
  | replaced {size : GridSize} {tile : Tile} {later : World} (size_eq : later.size = size)
      (inside : later.size.contains later.mover.cell = true) :
      EdgeCase world (.configureGrid size tile) later
  /-- The grid stays, and the mover stays where it is or comes to a cell of the grid. -/
  | kept {command : Command} {later : World} (keeps : command.replacesGrid = false)
      (size_eq : later.size = world.size)
      (mover : later.size.contains later.mover.cell = true ∨
        later.mover.cell = world.mover.cell) :
      EdgeCase world command later

theorem World.edgeCase_apply {command : Command} (world : World)
    (own : command.isAdvance = false) : world.EdgeCase command (world.apply command).world := by
  have reacted := world.apply_case command
  generalize world.apply command = reaction at reacted
  cases reacted with
  | configured clamped => exact .replaced rfl (GridSize.contains_of_clamp clamped)
  | emptyGrid empty =>
      have refused := GridSize.clamp_eq_none_iff.mp empty
      exact .kept (by rw [Command.replacesGrid, refused]; rfl) rfl (Or.inr rfl)
  | placed inside vacant => exact .kept rfl rfl (Or.inl inside)
  | stepped step vacant => exact .kept rfl rfl (Or.inl (Direction.contains_of_step step))
  | advanced => cases own
  | _ => exact .kept rfl rfl (Or.inr rfl)

/-- Something that happens to a session. -/
inductive SessionStep where
  /-- A host sends a command. Moving the mover along a route is left to the controller. -/
  | command (command : Command) (own : command.isAdvance = false)
  /-- A host asks for a move of the mover in the world as it is. -/
  | request (target : Cell)
  /-- A host ends the move in progress. -/
  | stop
  /-- A firing is brought to the controller, whose commands the world carries out. -/
  | tick (timer : TimerId)
  /-- The clock is told something that the controller does not hear of. -/
  | clock (operation : VirtualClock.Operation)

/-- Whether the step replaces the grid. -/
def SessionStep.replacesGrid : SessionStep → Bool
  | command sent _ => sent.replacesGrid
  | _ => false

namespace Session

variable {session : Session} {cell : Cell}

/-- A session in the first of all worlds, with a clock and a controller that have done nothing. -/
def fresh (movement : MovementConfig) (search : SearchConfig) : Session :=
  ⟨.initial, .initial, { movement := movement, search := search }⟩

/-- The session after a step. -/
def take (session : Session) : SessionStep → Session
  | .command command _ => (session.apply [command]).session
  | .request target => (session.request target).session
  | .stop => session.interrupt.session
  | .tick timer => (session.deliver timer).session
  | .clock operation => { session with clock := session.clock.perform operation }

/-- The session after several steps. -/
def takeAll (session : Session) (steps : List SessionStep) : Session :=
  steps.foldl take session

/-- The cells that the move in progress has still to enter. -/
def route (session : Session) : List Cell :=
  session.controller.active.elim [] (·.route.cells)

/-- The cell of the mover and those that it has still to enter. -/
def course (session : Session) : List Cell :=
  session.world.mover.cell :: session.route

theorem takeAll_append_singleton (session : Session) (steps : List SessionStep)
    (step : SessionStep) :
    session.takeAll (steps ++ [step]) = (session.takeAll steps).take step := by
  rw [takeAll, List.foldl_append]
  rfl

/-- Where a move is over and the mover has stayed, nothing on the course is new. -/
theorem mem_course_of_idle {later : Session} (member : cell ∈ later.course)
    (idle : later.controller.active = none)
    (cell_eq : later.world.mover.cell = session.world.mover.cell) : cell ∈ session.course := by
  rw [course, route, idle, cell_eq] at member
  rw [List.mem_singleton.mp member]
  exact List.mem_cons_self

/-! ## A single step -/

/-- How a cell comes to lie on the course behind a step. -/
inductive CourseCase (session : Session) (cell : Cell) (step : SessionStep) : Prop where
  /-- It lies in the grid. -/
  | inside (inside : (session.take step).world.size.contains cell = true)
  /-- It lay on the course before, and the grid stays. -/
  | kept (keeps : step.replacesGrid = false)
      (size_eq : (session.take step).world.size = session.world.size)
      (member : cell ∈ session.course)
  /-- The move in progress has still to enter it, and the grid is replaced. -/
  | overtaken {size : GridSize} {tile : Tile}
      (step_eq : step = .command (.configureGrid size tile) rfl)
      (size_eq : (session.take step).world.size = size) (member : cell ∈ session.route)

theorem courseCase_command {command : Command} (own : command.isAdvance = false)
    (member : cell ∈ (session.take (.command command own)).course) :
    session.CourseCase cell (.command command own) := by
  rcases List.mem_cons.mp member with rfl | ahead
  · cases session.world.edgeCase_apply own with
    | replaced size_eq inside => exact .inside inside
    | kept keeps size_eq mover =>
        rcases mover with inside | cell_eq
        · exact .inside inside
        · exact .kept keeps size_eq (List.mem_cons.mpr (Or.inl cell_eq))
  · cases session.world.edgeCase_apply own with
    | replaced size_eq inside => exact .overtaken rfl size_eq ahead
    | kept keeps size_eq mover => exact .kept keeps size_eq (List.mem_cons_of_mem _ ahead)

theorem courseCase_request {target : Cell}
    (member : cell ∈ (session.take (.request target)).course) :
    session.CourseCase cell (.request target) := by
  have answer := session.moveReply_case target
  have course_eq : (session.take (.request target)).course =
      course { session with controller := (session.moveReply target).controller } := rfl
  rw [course_eq] at member
  generalize session.moveReply target = reply at answer member
  cases answer with
  | ignored | unreachable => exact .kept rfl rfl member
  | alreadyThere => exact .kept rfl rfl (mem_course_of_idle member rfl rfl)
  | started allowed found some_step =>
      rcases List.mem_cons.mp member with rfl | ahead
      · exact .kept rfl rfl List.mem_cons_self
      · have isRoute := SearchConfig.isRoute_of_findPath found
        exact .inside (isRoute.contains_and_vacant_of_mem ahead).1

theorem courseCase_stop (member : cell ∈ (session.take .stop).course) :
    session.CourseCase cell .stop := by
  have world_eq : session.interrupt.session.world = session.world := by
    rw [interrupt]
    split <;> rfl
  have cell_eq : session.interrupt.session.world.mover.cell = session.world.mover.cell := by
    rw [world_eq]
  exact .kept rfl (congrArg World.size world_eq)
    (mem_course_of_idle member session.active_interrupt cell_eq)

theorem courseCase_tick {timer : TimerId} (member : cell ∈ (session.take (.tick timer)).course) :
    session.CourseCase cell (.tick timer) := by
  have answer := session.controller.tick_case session.clock timer session.world.mover.cell
  have tracked : (session.deliver timer).session.world.size = session.world.size ∧
      cell ∈ session.course := by
    rw [take, deliver] at member
    rw [deliver]
    generalize session.controller.tick session.clock timer session.world.mover.cell = reply
      at answer member
    cases answer with
    | stale => exact ⟨rfl, member⟩
    | finished => exact ⟨rfl, mem_course_of_idle member rfl rfl⟩
    | @advanced next rest active =>
        have course_eq : session.course = session.world.mover.cell :: next :: rest := by
          rw [course, route, active]
          rfl
        rw [course_eq]
        exact ⟨rfl, List.mem_cons_of_mem _ member⟩
  exact .kept rfl tracked.1 tracked.2

theorem courseCase_take {step : SessionStep} (member : cell ∈ (session.take step).course) :
    session.CourseCase cell step := by
  cases step with
  | command command own => exact courseCase_command own member
  | request target => exact courseCase_request member
  | stop => exact courseCase_stop member
  | tick timer => exact courseCase_tick member
  | clock operation => exact .kept rfl rfl member

/-! ## Many steps -/

/-- The last step that replaced the grid made it one of the size, and the move that was in progress
then had still to enter the cell. -/
def Overtaken (session : Session) (steps : List SessionStep) (size : GridSize) (cell : Cell) :
    Prop :=
  ∃ earlier tile later,
    steps = earlier ++ .command (.configureGrid size tile) rfl :: later ∧
      (∀ step ∈ later, step.replacesGrid = false) ∧ cell ∈ (session.takeAll earlier).route

theorem Overtaken.append_singleton {steps : List SessionStep} {size : GridSize}
    (overtaken : session.Overtaken steps size cell) {step : SessionStep}
    (keeps : step.replacesGrid = false) : session.Overtaken (steps ++ [step]) size cell := by
  obtain ⟨earlier, tile, later, rfl, kept, member⟩ := overtaken
  refine ⟨earlier, tile, later ++ [step], by simp, ?_, member⟩
  intro other other_mem
  rcases List.mem_append.mp other_mem with before | same
  · exact kept other before
  · rwa [List.mem_singleton.mp same]

theorem contains_or_overtaken {movement : MovementConfig} {search : SearchConfig}
    {steps : List SessionStep} (member : cell ∈ ((fresh movement search).takeAll steps).course) :
    ((fresh movement search).takeAll steps).world.size.contains cell = true ∨
      (fresh movement search).Overtaken steps
        ((fresh movement search).takeAll steps).world.size cell := by
  induction steps using List.reverseRecOn with
  | nil =>
      have inside : GridSize.standard.contains Cell.origin = true := by decide
      obtain rfl := List.mem_singleton.mp member
      exact Or.inl inside
  | append_singleton steps step induction =>
      rw [takeAll_append_singleton] at member ⊢
      cases courseCase_take member with
      | inside inside => exact Or.inl inside
      | kept keeps size_eq before =>
          rw [size_eq]
          exact (induction before).imp_right fun overtaken => overtaken.append_singleton keeps
      | overtaken step_eq size_eq ahead =>
          subst step_eq
          exact Or.inr ⟨steps, _, [], by rw [size_eq], by simp, ahead⟩

/-- A mover stays on its grid as long as every grid that a host configures holds the rest of the
route. -/
theorem contains_mover_of_routes_held {movement : MovementConfig} {search : SearchConfig}
    {steps : List SessionStep}
    (held : ∀ earlier size tile later,
      steps = earlier ++ .command (.configureGrid size tile) rfl :: later →
        ∀ cell ∈ ((fresh movement search).takeAll earlier).route, size.contains cell = true) :
    let session := (fresh movement search).takeAll steps
    session.world.size.contains session.world.mover.cell = true := by
  intro session
  have mover_mem : session.world.mover.cell ∈ session.course := List.mem_cons_self
  rcases contains_or_overtaken mover_mem with inside | overtaken
  · exact inside
  · obtain ⟨earlier, tile, later, steps_eq, -, ahead⟩ := overtaken
    exact held earlier _ tile later steps_eq _ ahead

/-- Whatever hosts, controller and clock do and in whatever order, the cell of the mover lies in the
grid, or the move in progress had still to enter it when the grid was last replaced. -/
theorem mover_inside_or_overtaken (movement : MovementConfig) (search : SearchConfig)
    (steps : List SessionStep) :
    let session := (fresh movement search).takeAll steps
    session.world.size.contains session.world.mover.cell = true ∨
      (fresh movement search).Overtaken steps session.world.size session.world.mover.cell :=
  contains_or_overtaken List.mem_cons_self

/-- The mover sets out for the cell to its right, and before the timer of the move fires for the
first time, the grid shrinks to a single cell. -/
theorem mover_outside_shrunken_grid :
    let session := (fresh {} {}).takeAll
      [.request ⟨1, 0⟩, .command (.configureGrid ⟨1, 1⟩ .standard) rfl]
    let later := session.takeAll [.clock (.advance session.tickInterval), .tick ⟨0⟩]
    (session.clock.advance session.tickInterval).1.map Firing.timer = [⟨0⟩] ∧
      later.world.size.contains later.world.mover.cell = false := by
  decide +kernel

end Session
end GridWalk
