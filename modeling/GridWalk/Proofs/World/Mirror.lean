import GridWalk.Proofs.World.Reactions
import Mathlib.Logic.Function.Basic

/-!
# Worlds seen through their events

An observer who never sees a world, but is told of all its events, keeps a mirror of it: the size of
the grid, a flag for each cell and the mover. The main statement says that the mirror of a new world
stays true whatever the world is commanded, so that no change goes unannounced.
-/

namespace GridWalk

/-- What an observer of events knows of a world. -/
structure Mirror where
  size : GridSize
  /-- The flags of the cells. -/
  isWall : Cell → Bool
  mover : Mover

namespace Mirror

/-- What the observer knows before any event: the grid has 60 columns and 60 rows, there are no
walls, and the mover rests on the first cell, looking south. -/
def initial : Mirror :=
  ⟨⟨60, 60⟩, fun _ => false, ⟨⟨0, 0⟩, .south, WalkFrame.rest⟩⟩

/-- The mirror after an event. -/
def observe (mirror : Mirror) : Event → Mirror
  | .gridConfigured size =>
      let cell := (size.clamp mirror.mover.cell).getD mirror.mover.cell
      ⟨size, fun _ => false, ⟨cell, mirror.mover.facing, WalkFrame.rest⟩⟩
  | .cellBlockChanged cell blocked =>
      { mirror with isWall := Function.update mirror.isWall cell blocked }
  | .moverPlaced cell => { mirror with mover := ⟨cell, mirror.mover.facing, WalkFrame.rest⟩ }
  | .moverPlacementRejected _ _ => mirror
  | .moverAdvanced direction _ target frame => { mirror with mover := ⟨target, direction, frame⟩ }
  | .moverBlocked direction _ =>
      { mirror with mover := ⟨mirror.mover.cell, direction, mirror.mover.frame⟩ }
  | .moverSettled _ =>
      { mirror with mover := ⟨mirror.mover.cell, mirror.mover.facing, WalkFrame.rest⟩ }

/-- The mirror after several events. -/
def observeAll (mirror : Mirror) (events : List Event) : Mirror :=
  events.foldl observe mirror

/-- What an event says or implies about the time before it agrees with the mirror. -/
def Fits (mirror : Mirror) : Event → Prop
  | .gridConfigured size => size.isEmpty = false
  | .cellBlockChanged cell blocked =>
      mirror.size.contains cell = true ∧ mirror.isWall cell = !blocked
  | .moverPlaced cell => mirror.size.contains cell = true ∧ mirror.isWall cell = false
  | .moverPlacementRejected cell .outOfBounds => mirror.size.contains cell = false
  | .moverPlacementRejected cell .blocked =>
      mirror.size.contains cell = true ∧ mirror.isWall cell = true
  | .moverAdvanced _ source _ _ => source = mirror.mover.cell
  | .moverBlocked _ cell | .moverSettled cell => cell = mirror.mover.cell

/-- Every event fits the mirror that the events before it have made. -/
def FitsAll (mirror : Mirror) (events : List Event) : Prop :=
  ∀ earlier event later, events = earlier ++ event :: later →
    (mirror.observeAll earlier).Fits event

variable {mirror : Mirror}

theorem observeAll_append (mirror : Mirror) (events later : List Event) :
    mirror.observeAll (events ++ later) = (mirror.observeAll events).observeAll later :=
  List.foldl_append

theorem fitsAll_nil : mirror.FitsAll [] := by
  intro earlier event later events_eq
  simp at events_eq

theorem fitsAll_singleton {event : Event} (fits : mirror.Fits event) : mirror.FitsAll [event] := by
  intro earlier other later events_eq
  obtain ⟨rfl, rfl, rfl⟩ : earlier = [] ∧ event = other ∧ later = [] := by
    cases earlier <;> simp_all
  exact fits

theorem fitsAll_append {events later : List Event} (first : mirror.FitsAll events)
    (second : (mirror.observeAll events).FitsAll later) : mirror.FitsAll (events ++ later) := by
  intro earlier event rest events_eq
  rcases List.append_eq_append_iff.mp events_eq with
    ⟨between, rfl, rest_eq⟩ | ⟨between, rfl, rest_eq⟩
  · rw [observeAll_append]
    exact second between event rest rest_eq
  · cases between with
    | nil =>
        rw [List.append_nil] at second
        exact second [] event rest rest_eq.symm
    | cons head tail =>
        obtain ⟨rfl, rfl⟩ := List.cons.inj rest_eq
        exact first earlier _ tail rfl

end Mirror

namespace World

variable {world : World} {command : Command}

/-- The mirror that agrees with the world. -/
def mirror (world : World) : Mirror :=
  ⟨world.size, world.walls.contains, world.mover⟩

/-! ## A single command -/

theorem contains_insert_eq_update (walls : CellSet) (cell : Cell) :
    (walls.insert cell).contains = Function.update walls.contains cell true := by
  funext other
  by_cases same : other = cell
  · simp [same]
  · simp [Function.update_of_ne same, Ne.symm same]

theorem contains_erase_eq_update (walls : CellSet) (cell : Cell) :
    (walls.erase cell).contains = Function.update walls.contains cell false := by
  funext other
  by_cases same : other = cell
  · simp [same]
  · simp [Function.update_of_ne same, Ne.symm same]

/-- The events of a command tell all that it changes. -/
theorem observeAll_apply (world : World) (command : Command) :
    world.mirror.observeAll (world.apply command).events = (world.apply command).world.mirror := by
  have reacted := world.apply_case command
  generalize world.apply command = reaction at reacted
  cases reacted with
  | configured clamped =>
      change Mirror.mk _ _ ⟨(GridSize.clamp _ world.mover.cell).getD _, _, _⟩ = _
      rw [clamped]
      rfl
  | wallBuilt => exact congrArg (Mirror.mk _ · _) (contains_insert_eq_update _ _).symm
  | wallRemoved => exact congrArg (Mirror.mk _ · _) (contains_erase_eq_update _ _).symm
  | _ => rfl

/-- The events of a command fit the world that it was given to. -/
theorem fitsAll_apply (world : World) (command : Command) :
    world.mirror.FitsAll (world.apply command).events := by
  have reacted := world.apply_case command
  generalize world.apply command = reaction at reacted
  cases reacted with
  | emptyGrid empty => exact Mirror.fitsAll_nil
  | wallKept same => exact Mirror.fitsAll_nil
  | configured clamped =>
      exact Mirror.fitsAll_singleton (GridSize.isEmpty_eq_false_of_clamp clamped)
  | wallBuilt inside vacant => exact Mirror.fitsAll_singleton ⟨inside, vacant⟩
  | wallRemoved inside wall => exact Mirror.fitsAll_singleton ⟨inside, wall⟩
  | placed inside vacant => exact Mirror.fitsAll_singleton ⟨inside, vacant⟩
  | placementOutside outside => exact Mirror.fitsAll_singleton outside
  | placementOnWall inside wall => exact Mirror.fitsAll_singleton ⟨inside, wall⟩
  | stepped | bumped | advanced | settled => exact Mirror.fitsAll_singleton rfl

/-- A command without events does nothing at all. -/
theorem apply_of_silent (silent : (world.apply command).events = []) :
    (world.apply command).world = world := by
  have reacted := world.apply_case command
  generalize world.apply command = reaction at reacted silent
  cases reacted with
  | emptyGrid | wallKept => rfl
  | _ => cases silent

/-! ## Commands one after another -/

theorem observeAll_applyAll (world : World) (commands : List Command) :
    world.mirror.observeAll (world.applyAll commands).events =
      (world.applyAll commands).world.mirror := by
  induction commands generalizing world with
  | nil => rfl
  | cons command commands induction =>
      rw [applyAll, Mirror.observeAll_append, observeAll_apply]
      exact induction (world.apply command).world

theorem fitsAll_applyAll (world : World) (commands : List Command) :
    world.mirror.FitsAll (world.applyAll commands).events := by
  induction commands generalizing world with
  | nil => exact Mirror.fitsAll_nil
  | cons command commands induction =>
      refine Mirror.fitsAll_append (world.fitsAll_apply command) ?_
      rw [observeAll_apply]
      exact induction (world.apply command).world

theorem mirror_initial : initial.mirror = Mirror.initial := by
  have no_wall : CellSet.empty.contains = fun _ => false := funext fun _ => CellSet.contains_empty
  exact congrArg (Mirror.mk _ · _) no_wall

/-- Whatever a new world is commanded, an observer of its events alone knows its grid, its mover and
its walls, and a command that causes no event leaves the world as it was. -/
theorem events_mirror_world (commands : List Command) :
    let events := (initial.applyAll commands).events
    let world := (initial.applyAll commands).world
    let mirror := Mirror.initial.observeAll events
    mirror.size = world.size ∧ mirror.mover = world.mover ∧
      (∀ cell, world.size.contains cell = true → world.isBlocked cell = mirror.isWall cell) ∧
      (∀ cell, world.size.contains cell = false → world.isBlocked cell = true) ∧
      Mirror.initial.FitsAll events ∧
      (∀ command, (world.apply command).events = [] → (world.apply command).world = world) := by
  intro events world mirror
  have mirror_eq : mirror = world.mirror := by
    rw [← observeAll_applyAll, mirror_initial]
  refine ⟨?_, ?_, ?_, ?_, ?_, fun command => apply_of_silent⟩
  · rw [mirror_eq]
    rfl
  · rw [mirror_eq]
    rfl
  · intro cell inside
    rw [mirror_eq, isBlocked_of_contains inside]
    rfl
  · intro cell outside
    exact isBlocked_of_outside outside
  · rw [← mirror_initial]
    exact fitsAll_applyAll initial commands

end World
end GridWalk
