import GridWalk.Proofs.Session.Pace

/-!
# The end of a session

What a host does last, it lets the move in progress come to its end. The move keeps its destination
through every tick, so the mover then rests on the target of the last request that was accepted.
Only the end of all durations can come first, and in that case the move stays as far as it got.
-/

namespace GridWalk

/-! ## Accepted requests -/

/-- The target of a request that was not refused. -/
def Record.accepted? : Record → Option Cell
  | .request target (.started _) _ => some target
  | .request target .alreadyThere _ => some target
  | _ => none

/-- The target of the last request that was not refused. -/
def lastTarget? (records : List Record) : Option Cell :=
  (records.filterMap Record.accepted?).getLast?

theorem lastTarget?_append_of_silent {records later : List Record}
    (silent : ∀ record ∈ later, record.accepted? = none) :
    lastTarget? (records ++ later) = lastTarget? records := by
  rw [lastTarget?, List.filterMap_append, List.filterMap_eq_nil_iff.mpr silent, List.append_nil,
    lastTarget?]

theorem lastTarget?_append_singleton {records : List Record} {record : Record} {target : Cell}
    (accepted : record.accepted? = some target) :
    lastTarget? (records ++ [record]) = some target := by
  simp [lastTarget?, accepted]

/-- A walk whose last record is the end of a route ends at rest. -/
theorem Mover.Walk.frame_eq_rest {size : GridSize} {isBlocked : Cell → Bool} {first last : Mover}
    {records : List Record} {time : Duration} {cell : Cell}
    (walk : Walk size isBlocked first (records ++ [.event time (.moverSettled cell)]) last) :
    last.frame = WalkFrame.rest := by
  induction records generalizing first with
  | nil =>
      cases walk with
      | settle time rest =>
          cases rest
          rfl
  | cons record records induction =>
      cases walk with
      | advance _ _ _ rest => exact induction rest
      | bump _ _ rest => exact induction rest
      | settle _ rest => exact induction rest
      | request _ _ _ rest => exact induction rest
      | interrupted _ rest => exact induction rest

namespace Session

variable {session : Session} {progress : Progress} {interval : Duration} {move : ActiveMove}
  {records : List Record} {layout : Layout} {settings : Settings}

/-! ## Where a move leads -/

/-- The cell that the mover stands on when the move in progress has entered its last cell. -/
def destination? (session : Session) : Option Cell :=
  session.controller.active.map fun move => move.route.cells.getLastD session.world.mover.cell

theorem destination?_of_idle (idle : session.controller.active = none) :
    session.destination? = none := by
  rw [destination?, idle, Option.map_none]

/-- Part of a script accepts no request and leads no move to another destination. -/
structure KeepsHeading (session : Session) (progress : Progress) : Prop where
  /-- No request is accepted. -/
  silent : ∀ record ∈ progress.records, record.accepted? = none
  /-- A move that is in progress afterwards leads where it led before. -/
  destination : ∀ target, progress.session.destination? = some target →
    session.destination? = some target

namespace KeepsHeading

theorem nothing (session : Session) : session.KeepsHeading ⟨session, [], []⟩ :=
  ⟨by simp, fun _ leads => leads⟩

theorem andThen {next : Session → Progress} (first : session.KeepsHeading progress)
    (second : progress.session.KeepsHeading (next progress.session)) :
    session.KeepsHeading (progress.andThen next) := by
  refine ⟨?_, fun target leads => first.destination target (second.destination target leads)⟩
  intro record member
  rcases List.mem_append.mp member with earlier | later
  · exact first.silent record earlier
  · exact second.silent record later

theorem deliver (session : Session) (timer : TimerId) :
    session.KeepsHeading (session.deliver timer) := by
  have answer := session.controller.tick_case session.clock timer session.world.mover.cell
  rw [Session.deliver]
  generalize session.controller.tick session.clock timer session.world.mover.cell = reply at answer
  cases answer with
  | stale foreign => exact ⟨by simp [apply, World.applyAll], fun _ leads => leads⟩
  | finished active =>
      refine ⟨by simp [apply, World.applyAll, World.apply, Record.accepted?], ?_⟩
      intro target leads
      rw [destination?_of_idle rfl] at leads
      cases leads
  | @advanced next rest active =>
      refine ⟨by simp [apply, World.applyAll, World.apply, World.advance, Record.accepted?], ?_⟩
      intro target leads
      rw [destination?, active, Option.map_some, List.getLastD_cons]
      exact leads

theorem deliverWhile (goesOn : Session → Bool) (limit : Duration) (session : Session) :
    session.KeepsHeading (session.deliverWhile goesOn limit) := by
  fun_induction Session.deliverWhile goesOn limit session with
  | case1 session goes_on popped => exact nothing session
  | case2 session goes_on firing clock popped progress rest induction =>
      have ticked := deliver { session with clock := clock } firing.timer
      have delivered : session.KeepsHeading progress := ⟨ticked.silent, ticked.destination⟩
      change session.KeepsHeading (progress.andThen (Session.deliverWhile goesOn limit))
      exact delivered.andThen induction
  | case3 session stopped => exact nothing session

theorem waitUntil (session : Session) (limit : Duration) :
    session.KeepsHeading (session.waitUntil limit) :=
  (deliverWhile _ limit session).andThen ⟨by simp, fun _ leads => leads⟩

end KeepsHeading

/-- The move in progress leads to the target of the last accepted request in the records. -/
def Headed (records : List Record) (session : Session) : Prop :=
  ∀ target, session.destination? = some target → lastTarget? records = some target

namespace Headed

theorem of_idle (idle : session.controller.active = none) : Headed records session := by
  intro target leads
  rw [destination?_of_idle idle] at leads
  cases leads

theorem onward (headed : Headed records session) (keeps : session.KeepsHeading progress) :
    Headed (records ++ progress.records) progress.session := by
  intro target leads
  rw [lastTarget?_append_of_silent keeps.silent]
  exact headed target (keeps.destination target leads)

theorem request (headed : Headed records session) (target : Cell) :
    Headed (records ++ (session.request target).records) (session.request target).session := by
  have answer := session.moveReply_case target
  rw [request_eq]
  generalize session.moveReply target = reply at answer
  cases answer with
  | ignored moving policy =>
      exact headed.onward ⟨by simp [Record.accepted?], fun _ leads => leads⟩
  | unreachable allowed failed =>
      exact headed.onward ⟨by simp [Record.accepted?], fun _ leads => leads⟩
  | alreadyThere allowed found => exact of_idle rfl
  | @started route notes allowed found some_step =>
      intro last leads
      rw [lastTarget?_append_singleton rfl, ← leads]
      have isRoute := SearchConfig.isRoute_of_findPath found
      rcases isRoute.eq_nil_or_getLast? with ⟨nothing, -⟩ | last_eq
      · exact absurd nothing some_step
      · simp [destination?, Controller.walking, List.getLastD_eq_getLast?, last_eq]

theorem press (records : List Record) (session : Session) (direction : Direction) :
    Headed records (session.press direction).session :=
  of_idle session.active_interrupt

theorem perform (headed : Headed records session) (action : Action) :
    Headed (records ++ (session.perform action).records) (session.perform action).session := by
  cases action with
  | moveTo target => exact headed.request target
  | wait ticks => exact headed.onward (.waitUntil session _)
  | key direction => exact press _ session direction

theorem finish (headed : Headed records session) :
    Headed (records ++ session.finish.records) session.finish.session :=
  headed.onward (.deliverWhile _ _ session)

end Headed

/-! ## Ticks up to the end of all durations -/

/-- The number of intervals that fit between an instant and the greatest duration. -/
def room (now interval : Duration) : Nat :=
  (Duration.mostNanoseconds - now.nanoseconds) / interval.nanoseconds

theorem le_room_iff {now : Duration} (interval_pos : 0 < interval.nanoseconds) {count : Nat} :
    count ≤ room now interval ↔
      now.nanoseconds + count * interval.nanoseconds ≤ Duration.mostNanoseconds := by
  have now_le := now.nanoseconds_le
  rw [room, Nat.le_div_iff_mul_le interval_pos]
  omega

/-- While a move is in progress, finishing delivers one tick an interval, as many as the route and
the greatest duration allow. -/
theorem paced_finish (interval_pos : 0 < interval.nanoseconds) (onBeat : session.OnBeat interval)
    (active : session.controller.active = some move) :
    let count := min (move.route.length + 1) (room session.elapsed interval)
    session.Delivers (·.controller.isMoving) .longest ((List.range count).map fun index =>
        ⟨tickTime session.elapsed interval index, move.timer⟩) session.finish ∧
      session.Paced move interval count session.finish :=
  paced_deliverWhile interval_pos (fun _ moving => moving) onBeat active .longest

theorem onBeat_finish (interval_pos : 0 < interval.nanoseconds)
    (onBeat : session.OnBeat interval) : session.finish.session.OnBeat interval := by
  cases active : session.controller.active with
  | none =>
      rw [finish, (delivers_of_idle onBeat active _ _).eq_deliverWhile]
      exact onBeat
  | some move => exact (paced_finish interval_pos onBeat active).2.onBeat

/-! ## Sessions that a host can reach -/

/-- What a host can make of a session, with the records of all that it did. -/
inductive Reached (layout : Layout) (settings : Settings) : List Record → Session → Prop where
  /-- The session has just started. -/
  | start : Reached layout settings [] (Session.start layout settings).session
  /-- An action is carried out. -/
  | perform {records : List Record} {session : Session}
      (reached : Reached layout settings records session) (action : Action) :
      Reached layout settings (records ++ (session.perform action).records)
        (session.perform action).session
  /-- The move in progress is let come to its end. -/
  | finish {records : List Record} {session : Session}
      (reached : Reached layout settings records session) :
      Reached layout settings (records ++ session.finish.records) session.finish.session

namespace Reached

theorem performAll (reached : Reached layout settings records session) (actions : List Action) :
    Reached layout settings (records ++ (session.performAll actions).records)
      (session.performAll actions).session := by
  induction actions generalizing records session with
  | nil => simpa [Session.performAll] using reached
  | cons action actions induction =>
      have performed := induction (reached.perform action)
      rw [List.append_assoc] at performed
      exact performed

theorem onCourse (reached : Reached layout settings records session) : session.OnCourse := by
  induction reached with
  | start => exact onCourse_start layout settings
  | perform _ action induction => exact (walks_perform induction action).onCourse
  | finish _ induction => exact (walks_deliverWhile _ _ induction).onCourse

theorem headed (reached : Reached layout settings records session) : Headed records session := by
  induction reached with
  | start => exact .of_idle rfl
  | perform _ action induction => exact induction.perform action
  | finish _ induction => exact induction.finish

theorem onBeat (shortest_le : shortestPeriod ≤ settings.movement.tickInterval)
    (reached : Reached layout settings records session) :
    session.OnBeat settings.movement.tickInterval := by
  have interval_pos : 0 < settings.movement.tickInterval.nanoseconds :=
    Nat.lt_of_lt_of_le (by decide) (Duration.le_iff.mp shortest_le)
  induction reached with
  | start => exact onBeat_start layout settings
  | perform _ action induction => exact onBeat_performAll shortest_le induction [action]
  | finish _ induction => exact onBeat_finish interval_pos induction

end Reached

/-! ## Finishing -/

/-- The records of a mover that enters cells one after another, one each interval. -/
def advances (now interval : Duration) (mover : Mover) (cells : List Cell) : List Record :=
  cells.mapIdx fun index target =>
    let source := (cells.take index).getLastD mover.cell
    .event (tickTime now interval index) (.moverAdvanced (Controller.facing source target) source
      target (WalkFrame.next^[index + 1] mover.frame))

/-- As long as the route lasts, every tick is a step. -/
theorem map_range_tickEvent (now interval : Duration) (mover : Mover) {cells : List Cell}
    {count : Nat} (count_le : count ≤ cells.length) :
    ((List.range count).map fun index =>
        Record.event (tickTime now interval index) (tickEvent mover cells index)) =
      advances now interval mover (cells.take count) := by
  refine List.ext_getElem (by simp [advances, count_le]) ?_
  intro index index_lt _
  rw [List.length_map, List.length_range] at index_lt
  have within : index < cells.length := index_lt.trans_le count_le
  simp [advances, tickEvent, within, List.take_take, Nat.min_eq_left index_lt.le]

/-- A move that finishing brings to its end: each cell of its route is entered, the mover comes to
rest on the last one, and no timer is left. -/
theorem records_of_completed (interval_pos : 0 < interval.nanoseconds)
    (onBeat : session.OnBeat interval) (onCourse : session.OnCourse)
    (active : session.controller.active = some move)
    (fits : move.route.length + 1 ≤ room session.elapsed interval) :
    let progress := session.finish
    let mover := progress.session.world.mover
    progress.records =
        advances session.elapsed interval session.world.mover move.route.cells ++
          [.event (tickTime session.elapsed interval move.route.length)
            (.moverSettled mover.cell)] ∧
      session.destination? = some mover.cell ∧ mover.frame = WalkFrame.rest ∧
      progress.session.controller.active = none ∧ progress.session.clock.timers = [] ∧
      progress.session.elapsed.nanoseconds =
        session.elapsed.nanoseconds + (move.route.length + 1) * interval.nanoseconds := by
  intro progress mover
  have paced := (paced_finish interval_pos onBeat active).2
  rw [Nat.min_eq_left fits] at paced
  have cell_eq : mover.cell = move.route.cells.getLastD session.world.mover.cell := by
    have take_all : move.route.cells.take (move.route.length + 1) = move.route.cells :=
      List.take_of_length_le (Nat.le_succ _)
    rw [← take_all]
    exact paced.cell_eq
  have idle : progress.session.controller.active = none :=
    paced.active_eq.trans (if_neg (Nat.not_succ_le_self _))
  -- The last tick finds no cell left to enter.
  have settled : tickEvent session.world.mover move.route.cells move.route.length =
      .moverSettled mover.cell := by
    simp [tickEvent, Route.length, cell_eq]
  have steps := map_range_tickEvent session.elapsed interval session.world.mover
    (Nat.le_refl move.route.cells.length)
  rw [List.take_length] at steps
  have records_eq : progress.records = advances session.elapsed interval session.world.mover
      move.route.cells ++
        [.event (tickTime session.elapsed interval move.route.length)
          (.moverSettled mover.cell)] := by
    rw [← steps, ← settled]
    exact paced.records_eq.trans (by rw [List.range_succ, List.map_append]; rfl)
  have walks : session.Walks progress := walks_deliverWhile _ _ onCourse
  refine ⟨records_eq, ?_, (records_eq ▸ walks.walk).frame_eq_rest, idle,
    paced.onBeat.timers_of_idle idle, paced.now_eq⟩
  rw [destination?, active, Option.map_some, cell_eq]

/-- A move that the end of all durations comes before the end of: as many cells are entered as
intervals fit, and the move stays in progress. -/
theorem records_of_overtaken (interval_pos : 0 < interval.nanoseconds)
    (onBeat : session.OnBeat interval) (active : session.controller.active = some move)
    (too_long : room session.elapsed interval < move.route.length + 1) :
    let count := room session.elapsed interval
    let progress := session.finish
    count ≤ move.route.length ∧
      progress.records = advances session.elapsed interval session.world.mover
        (move.route.cells.take count) ∧
      progress.session.controller.active =
        some ⟨⟨move.route.cells.drop count⟩, move.timer⟩ := by
  intro count progress
  have count_le : count ≤ move.route.length := Nat.le_of_lt_succ too_long
  have paced := (paced_finish interval_pos onBeat active).2
  rw [Nat.min_eq_right (Nat.le_of_lt too_long)] at paced
  refine ⟨count_le, ?_, paced.active_eq.trans (if_pos count_le)⟩
  rw [← map_range_tickEvent _ _ _ count_le]
  exact paced.records_eq

/-- Finishing completes the move: one remaining cell is entered an interval, and the mover rests on
the target of the last accepted request. Where that takes longer than a duration can hold, the move
stays in progress. -/
theorem finish_completes_move (layout : Layout) (settings : Settings)
    (accepted : settings.Accepted) (records : List Record) (session : Session)
    (reached : Reached layout settings records session) :
    let interval := settings.movement.tickInterval
    let now := session.elapsed
    let progress := session.finish
    (∃ firings, session.Delivers (·.controller.isMoving) .longest firings progress) ∧
      (session.controller.active = none → progress = ⟨session, [], []⟩) ∧
      ∀ move, session.controller.active = some move →
        let remaining := move.route.length
        let mover := progress.session.world.mover
        (now.nanoseconds + (remaining + 1) * interval.nanoseconds ≤ Duration.mostNanoseconds →
          progress.records = advances now interval session.world.mover move.route.cells ++
              [.event (tickTime now interval remaining) (.moverSettled mover.cell)] ∧
            lastTarget? records = some mover.cell ∧ mover.frame = WalkFrame.rest ∧
            progress.session.controller.active = none ∧ progress.session.clock.timers = [] ∧
            progress.session.elapsed.nanoseconds =
              now.nanoseconds + (remaining + 1) * interval.nanoseconds) ∧
        (Duration.mostNanoseconds < now.nanoseconds + (remaining + 1) * interval.nanoseconds →
          let count := (Duration.mostNanoseconds - now.nanoseconds) / interval.nanoseconds
          count ≤ remaining ∧
            progress.records = advances now interval session.world.mover
              (move.route.cells.take count) ∧
            progress.session.controller.active =
              some ⟨⟨move.route.cells.drop count⟩, move.timer⟩) := by
  intro interval now progress
  have shortest_le : shortestPeriod ≤ interval := Settings.shortestPeriod_le_of_accepted accepted
  have interval_pos : 0 < interval.nanoseconds :=
    Nat.lt_of_lt_of_le (by decide) (Duration.le_iff.mp shortest_le)
  have onBeat : session.OnBeat interval := reached.onBeat shortest_le
  refine ⟨?_, ?_, ?_⟩
  · cases active : session.controller.active with
    | none =>
        have nothing := delivers_of_idle onBeat active (·.controller.isMoving) .longest
        have finished : progress = ⟨session, [], []⟩ := nothing.eq_deliverWhile
        exact ⟨[], finished ▸ nothing⟩
    | some move => exact ⟨_, (paced_finish interval_pos onBeat active).1⟩
  · intro idle
    exact (delivers_of_idle onBeat idle (·.controller.isMoving) .longest).eq_deliverWhile
  · intro move active remaining mover
    constructor
    · intro in_time
      obtain ⟨records_eq, leads, rest⟩ := records_of_completed interval_pos onBeat
        reached.onCourse active ((le_room_iff interval_pos).mpr in_time)
      exact ⟨records_eq, reached.headed _ leads, rest⟩
    · intro too_late
      refine records_of_overtaken interval_pos onBeat active (Nat.lt_of_not_le ?_)
      rw [le_room_iff interval_pos]
      exact Nat.not_le.mpr too_late

/-- A mover that has taken one step of three takes the other two and comes to rest on the target. At
the end of all durations, where a long wait between slow ticks leads, a mover stays where it is. -/
theorem finish_along_row :
    let script (settings : Settings) (actions : List Action) : Progress :=
      (start (Layout.plain ⟨4, 1⟩) settings).session.performAll actions
    let slow : Settings := { movement := { tickInterval := .ofMilliseconds 9223372036854775807 } }
    let walk := script {} [.moveTo ⟨3, 0⟩, .wait 1]
    let late := script slow [.wait 4294967295, .moveTo ⟨3, 0⟩]
    (Settings.Accepted {} ∧ Reached (Layout.plain ⟨4, 1⟩) {} walk.records walk.session ∧
      walk.session.finish.records =
        [.event (.ofMilliseconds 240) (.moverAdvanced .east ⟨1, 0⟩ ⟨2, 0⟩ ⟨2, by decide⟩),
          .event (.ofMilliseconds 360) (.moverAdvanced .east ⟨2, 0⟩ ⟨3, 0⟩ ⟨3, by decide⟩),
          .event (.ofMilliseconds 480) (.moverSettled ⟨3, 0⟩)]) ∧
    (slow.Accepted ∧ Reached (Layout.plain ⟨4, 1⟩) slow late.records late.session ∧
      late.session.finish.records = [] ∧
      late.session.finish.session.controller.isMoving = true) := by
  intro script slow walk late
  constructor
  · have accepted : Settings.Accepted {} := Or.inl rfl
    have reached : Reached (Layout.plain ⟨4, 1⟩) {} walk.records walk.session :=
      Reached.start.performAll [.moveTo ⟨3, 0⟩, .wait 1]
    have active : walk.session.controller.active = some ⟨⟨[⟨2, 0⟩, ⟨3, 0⟩]⟩, ⟨0⟩⟩ := by
      decide +kernel
    obtain ⟨-, -, moving⟩ := finish_completes_move _ _ accepted _ _ reached
    obtain ⟨records_eq, accepted_last, -⟩ := (moving _ active).1 (by decide +kernel)
    have last : lastTarget? walk.records = some ⟨3, 0⟩ := by decide +kernel
    rw [← Option.some.inj (last.symm.trans accepted_last)] at records_eq
    exact ⟨accepted, reached, records_eq.trans (by decide +kernel)⟩
  · have read : Settings.ofText
        "version = 1\n[movement]\ntick_interval_ms = 9223372036854775807\n" = .ok slow := by
      decide +kernel
    have accepted : slow.Accepted := Or.inr ⟨_, read⟩
    have reached : Reached (Layout.plain ⟨4, 1⟩) slow late.records late.session :=
      Reached.start.performAll [.wait 4294967295, .moveTo ⟨3, 0⟩]
    have active : late.session.controller.active = some ⟨⟨[⟨1, 0⟩, ⟨2, 0⟩, ⟨3, 0⟩]⟩, ⟨0⟩⟩ := by
      decide +kernel
    obtain ⟨-, -, moving⟩ := finish_completes_move _ _ accepted _ _ reached
    obtain ⟨-, records_eq, still_active⟩ := (moving _ active).2 (by decide +kernel)
    refine ⟨accepted, reached, records_eq.trans (by decide +kernel), ?_⟩
    rw [Controller.isMoving, still_active, Option.isSome_some]

end Session
end GridWalk
