import GridWalk.Proofs.Clock.Merge
import GridWalk.Proofs.Session.Walk
import GridWalk.Proofs.Settings
import Mathlib.Logic.Function.Iterate

/-!
# The pace of a session

A move in progress advances once an interval. Whenever a script gives a session anything to do, the
timer of the move is the only one of the clock and fires next one interval from then, so waiting for
a number of intervals delivers as many ticks, as far as the route and the greatest duration allow.
-/

namespace GridWalk

namespace VirtualClock

variable {clock : VirtualClock} {limit : Duration} {firing : Firing} {timer : Timer}

theorem popDue?_of_no_timers (none_left : clock.timers = []) : clock.popDue? limit = none :=
  popDue?_eq_none_iff.mpr (by simp [none_left])

theorem popDue?_of_single_timer (alone : clock.timers = [timer])
    (due : timer.due? limit = some firing) :
    clock.popDue? limit = some (firing,
      { clock with now := max clock.now firing.time, timers := [timer.advance] }) := by
  obtain ⟨-, -, same⟩ := Timer.due?_eq_some_iff.mp due
  simp [popDue?, nextFiring?, alone, due, Firing.first?, fire, same]

end VirtualClock

/-- Nothing comes of a part that does nothing. -/
theorem Progress.andThen_nothing (progress : Progress) :
    (progress.andThen fun _ => ⟨progress.session, [], []⟩) = progress := by
  simp only [Progress.andThen, List.append_nil]

namespace Session

variable {session : Session} {interval limit : Duration} {move : ActiveMove}
  {goesOn : Session → Bool} {firings : List Firing} {progress : Progress}

/-! ## Ticks delivered one after another -/

/-- The firings that a session delivers, one after another, and what they bring about. -/
inductive Delivers (goesOn : Session → Bool) (limit : Duration) :
    Session → List Firing → Progress → Prop where
  /-- The session has come to its end or nothing is due. -/
  | stop {session : Session}
      (ends : goesOn session = false ∨ session.clock.popDue? limit = none) :
      Delivers goesOn limit session [] ⟨session, [], []⟩
  /-- The firing that is popped first is delivered before the next one is popped. -/
  | tick {session : Session} {firing : Firing} {clock : VirtualClock} {firings : List Firing}
      {rest : Progress} (goes_on : goesOn session = true)
      (popped : session.clock.popDue? limit = some (firing, clock))
      (onward : Delivers goesOn limit
        ({ session with clock := clock }.deliver firing.timer).session firings rest) :
      Delivers goesOn limit session (firing :: firings)
        (({ session with clock := clock }.deliver firing.timer).andThen fun _ => rest)

theorem Delivers.eq_deliverWhile (delivers : Delivers goesOn limit session firings progress) :
    session.deliverWhile goesOn limit = progress := by
  induction delivers with
  | stop ends => exact deliverWhile_of_ended ends
  | tick goes_on popped onward induction =>
      rw [deliverWhile_of_popDue?_eq_some goes_on popped, Progress.andThen, induction]
      rfl

/-- Behind a wait nothing is due, so that moving time forward fires nothing more. -/
theorem advanceTo_deliverWhile (session : Session) (limit : Duration) :
    (session.deliverWhile (fun _ => true) limit).session.clock.advanceTo limit =
      ([], (session.waitUntil limit).session.clock) := by
  rw [waitUntil]
  fun_induction deliverWhile (fun _ => true) limit session with
  | case1 session goes_on nothing => exact VirtualClock.advanceTo_of_popDue?_eq_none nothing
  | case2 session goes_on firing clock popped progress rest induction => exact induction
  | case3 session stopped => cases stopped rfl

/-! ## Sessions on the beat -/

/-- A timer ticks for a move: it fires every interval, next one interval from now. -/
structure Beats (interval now : Duration) (move : ActiveMove) (timer : Timer) : Prop where
  id_eq : timer.id = move.timer
  period_eq : timer.period = interval
  /-- One interval passes to the next firing. -/
  nextDue_eq : timer.nextDue = now.checkedAdd interval

/-- The timer of the move in progress, if there is one, is the only timer of the clock and fires
next one interval from now. -/
structure OnBeat (interval : Duration) (session : Session) : Prop where
  tickInterval_eq : session.tickInterval = interval
  /-- A timer for the move in progress and no other. -/
  timers : List.Forall₂ (Beats interval session.clock.now) session.controller.active.toList
    session.clock.timers

namespace OnBeat

theorem timers_of_idle (onBeat : session.OnBeat interval)
    (idle : session.controller.active = none) : session.clock.timers = [] := by
  have timers := onBeat.timers
  rw [idle] at timers
  exact List.forall₂_nil_left_iff.mp timers

theorem timer_of_walking (onBeat : session.OnBeat interval)
    (active : session.controller.active = some move) :
    ∃ timer, session.clock.timers = [timer] ∧ Beats interval session.clock.now move timer := by
  have timers := onBeat.timers
  rw [active] at timers
  obtain ⟨timer, others, beats, none_left, alone⟩ := List.forall₂_cons_left_iff.mp timers
  rw [List.forall₂_nil_left_iff.mp none_left] at alone
  exact ⟨timer, alone, beats⟩

/-- A stop leaves no timers. -/
theorem scheduler_stop (onBeat : session.OnBeat interval) :
    (session.controller.stop session.clock).scheduler =
      ⟨session.clock.now, session.clock.nextId, []⟩ := by
  cases active : session.controller.active with
  | none =>
      rw [Controller.stop_of_idle active, ← onBeat.timers_of_idle active]
  | some move =>
      obtain ⟨timer, alone, beats⟩ := onBeat.timer_of_walking active
      rw [Controller.stop_of_walking active]
      change session.clock.cancel move.timer = _
      simp [VirtualClock.cancel, alone, beats.id_eq]

/-- A tick that is due comes one interval from now. -/
theorem popDue?_of_walking (onBeat : session.OnBeat interval)
    (active : session.controller.active = some move) (limit : Duration) :
    (limit.nanoseconds < session.clock.now.nanoseconds + interval.nanoseconds ∧
        session.clock.popDue? limit = none) ∨
      ∃ time timer, time.nanoseconds = session.clock.now.nanoseconds + interval.nanoseconds ∧
        time ≤ limit ∧ Beats interval time move timer ∧
        session.clock.popDue? limit =
          some (⟨time, move.timer⟩, { session.clock with now := time, timers := [timer] }) := by
  obtain ⟨timer, alone, beats⟩ := onBeat.timer_of_walking active
  cases due : timer.due? limit with
  | none =>
      have beyond := Timer.due?_eq_none_iff.mp due
      rw [beats.nextDue_eq] at beyond
      refine Or.inl ⟨?_, VirtualClock.popDue?_eq_none_iff.mpr (by simp [alone, due])⟩
      cases next : session.clock.now.checkedAdd interval with
      | none =>
          have far := Duration.checked_eq_none_iff.mp next
          have limit_le := limit.nanoseconds_le
          omega
      | some time =>
          have time_eq := Duration.checked_eq_some_iff.mp next
          have late := beyond time next
          omega
  | some firing =>
      obtain ⟨time, id⟩ := firing
      obtain ⟨next, within, rfl⟩ := Timer.due?_eq_some_iff.mp due
      simp only at next within
      have time_eq := Duration.checked_eq_some_iff.mp (beats.nextDue_eq.symm.trans next)
      have now_eq : max session.clock.now time = time := by
        rw [Duration.ext_iff, Duration.nanoseconds_max]
        omega
      refine Or.inr ⟨time, timer.advance, time_eq, within, ⟨beats.id_eq, beats.period_eq, ?_⟩, ?_⟩
      · simp [Timer.advance, next, beats.period_eq]
      · rw [VirtualClock.popDue?_of_single_timer alone due, now_eq, ← beats.id_eq]

end OnBeat

/-! ## Every session keeps to the beat -/

theorem onBeat_start (layout : Layout) (settings : Settings) :
    (start layout settings).session.OnBeat settings.movement.tickInterval :=
  ⟨rfl, .nil⟩

theorem onBeat_request (shortest_le : shortestPeriod ≤ interval) (onBeat : session.OnBeat interval)
    (target : Cell) : (session.request target).session.OnBeat interval := by
  have answer := session.moveReply_case target
  have stopped := onBeat.scheduler_stop
  rw [request_eq]
  generalize session.moveReply target = reply at answer
  cases answer with
  | ignored moving policy => exact onBeat
  | unreachable allowed failed => exact onBeat
  | alreadyThere allowed found =>
      rw [stopped]
      exact ⟨onBeat.tickInterval_eq, .nil⟩
  | started allowed found some_step =>
      have interval_eq : session.controller.movement.tickInterval = interval :=
        onBeat.tickInterval_eq
      have period_eq : max interval shortestPeriod = interval := by
        rw [Duration.ext_iff, Duration.nanoseconds_max]
        exact Nat.max_eq_left (Duration.le_iff.mp shortest_le)
      rw [stopped, interval_eq]
      refine ⟨interval_eq, .cons ⟨rfl, period_eq, ?_⟩ .nil⟩
      change session.clock.now.checkedAdd (max interval shortestPeriod) = _
      rw [period_eq]
      rfl

theorem onBeat_press (onBeat : session.OnBeat interval) (direction : Direction) :
    (session.press direction).session.OnBeat interval := by
  have stopped := onBeat.scheduler_stop
  have interrupted : session.interrupt.session.OnBeat interval := by
    rw [interrupt]
    split <;> rw [stopped, Controller.controller_stop] <;> exact ⟨onBeat.tickInterval_eq, .nil⟩
  exact ⟨interrupted.tickInterval_eq, interrupted.timers⟩

/-! ## The ticks of a move -/

/-- What the tick of a move brings about before which `index` others have come: a step onto the next
cell of the route, or the end of the move behind the last one. -/
def tickEvent (mover : Mover) (route : List Cell) (index : Nat) : Event :=
  let source := (route.take index).getLastD mover.cell
  match route[index]? with
  | some target =>
      .moverAdvanced (Controller.facing source target) source target
        (WalkFrame.next^[index + 1] mover.frame)
  | none => .moverSettled source

theorem tickEvent_succ (mover : Mover) (next : Cell) (rest : List Cell) (direction : Direction)
    (index : Nat) : tickEvent mover (next :: rest) (index + 1) =
      tickEvent (mover.advance direction next) rest index := by
  simp only [tickEvent, List.take_succ_cons, List.getLastD_cons, List.getElem?_cons_succ]
  rfl

/-- The time of a tick before which `index` others have come. -/
def tickTime (now interval : Duration) (index : Nat) : Duration :=
  .saturating (now.nanoseconds + (index + 1) * interval.nanoseconds)

/-- What a number of ticks of a move comes to. -/
structure Paced (session : Session) (move : ActiveMove) (interval : Duration) (count : Nat)
    (progress : Progress) : Prop where
  /-- Each tick is recorded at its time. -/
  records_eq : progress.records = (List.range count).map fun index =>
    .event (tickTime session.clock.now interval index)
      (tickEvent session.world.mover move.route.cells index)
  /-- The mover stands on the last cell that it has entered. -/
  cell_eq : progress.session.world.mover.cell =
    (move.route.cells.take count).getLastD session.world.mover.cell
  /-- The rest of the route is still to be walked, unless the move has ended. -/
  active_eq : progress.session.controller.active =
    if count ≤ move.route.length then some ⟨⟨move.route.cells.drop count⟩, move.timer⟩ else none
  /-- So many intervals have passed. -/
  now_eq : progress.session.clock.now.nanoseconds =
    session.clock.now.nanoseconds + count * interval.nanoseconds
  /-- The session is on the beat again. -/
  onBeat : progress.session.OnBeat interval

theorem deliver_of_nil {timer : TimerId}
    (active : session.controller.active = some ⟨⟨[]⟩, timer⟩) :
    ∃ notes, session.deliver timer =
      { session :=
          { world := { session.world with mover := session.world.mover.settle }
            clock := session.clock.cancel timer
            controller := session.controller.idle }
        records := [.event session.clock.now (.moverSettled session.world.mover.cell)]
        notes := notes } := by
  rw [deliver, Controller.tick_of_nil active]
  exact ⟨_, rfl⟩

theorem deliver_of_cons {next : Cell} {rest : List Cell} {timer : TimerId}
    (active : session.controller.active = some ⟨⟨next :: rest⟩, timer⟩) :
    let mover := session.world.mover
    let direction := Controller.facing mover.cell next
    session.deliver timer =
      { session :=
          { session with
            world := { session.world with mover := mover.advance direction next }
            controller := session.controller.walking ⟨⟨rest⟩, timer⟩ }
        records := [.event session.clock.now
          (.moverAdvanced direction mover.cell next (WalkFrame.next mover.frame))]
        notes := [] } := by
  rw [deliver, Controller.tick_of_cons active]
  rfl

/-! ### How the ticks follow one another -/

theorem tickTime_zero {now time : Duration}
    (time_eq : time.nanoseconds = now.nanoseconds + interval.nanoseconds) :
    tickTime now interval 0 = time := by
  have within := time.nanoseconds_le
  rw [Duration.ext_iff, tickTime, Duration.nanoseconds_saturating]
  omega

theorem tickTime_succ {now time : Duration}
    (time_eq : time.nanoseconds = now.nanoseconds + interval.nanoseconds) (index : Nat) :
    tickTime now interval (index + 1) = tickTime time interval index := by
  rw [tickTime, tickTime, time_eq, Nat.add_one_mul (index + 1), Nat.add_assoc,
    Nat.add_comm interval.nanoseconds]

/-- The ticks of a move, of which the first one comes at a given time. -/
theorem map_range_succ_tick {α : Type} {now time : Duration}
    (time_eq : time.nanoseconds = now.nanoseconds + interval.nanoseconds)
    (tick : Duration → Nat → α) (count : Nat) :
    (List.range (count + 1)).map (fun index => tick (tickTime now interval index) index) =
      tick time 0 ::
        (List.range count).map (fun index => tick (tickTime time interval index) (index + 1)) := by
  rw [List.range_succ_eq_map, List.map_cons, List.map_map, tickTime_zero time_eq]
  refine congrArg _ (List.map_congr_left fun index _ => ?_)
  rw [Function.comp_apply, Nat.succ_eq_add_one, tickTime_succ time_eq]

theorem paced_zero (onBeat : session.OnBeat interval)
    (active : session.controller.active = some move) :
    session.Paced move interval 0 ⟨session, [], []⟩ where
  records_eq := rfl
  cell_eq := rfl
  active_eq := by simpa using active
  now_eq := by rw [Nat.zero_mul, Nat.add_zero]
  onBeat := onBeat

/-- Behind the last cell of its route a move ends, and with it the timer. -/
theorem paced_one {time : Duration} {timer : TimerId} {clock : VirtualClock} {beating : Timer}
    (onBeat : session.OnBeat interval)
    (active : session.controller.active = some ⟨⟨[]⟩, timer⟩)
    (time_eq : time.nanoseconds = session.clock.now.nanoseconds + interval.nanoseconds)
    (beats : Beats interval time ⟨⟨[]⟩, timer⟩ beating)
    (clock_eq : clock = { session.clock with now := time, timers := [beating] }) :
    session.Paced ⟨⟨[]⟩, timer⟩ interval 1 ({ session with clock := clock }.deliver timer) := by
  have ticking : { session with clock := clock }.controller.active = some ⟨⟨[]⟩, timer⟩ := active
  obtain ⟨notes, delivered⟩ := deliver_of_nil ticking
  have none_left : (clock.cancel timer).timers = [] := by
    simp [clock_eq, VirtualClock.cancel, beats.id_eq]
  rw [delivered]
  refine ⟨?_, rfl, rfl, ?_, ⟨onBeat.tickInterval_eq, ?_⟩⟩
  · rw [List.range_one, List.map_singleton, tickTime_zero time_eq, clock_eq]
    rfl
  · rw [Nat.one_mul, ← time_eq, clock_eq]
    rfl
  · simp only [none_left]
    exact .nil

/-- On a route that goes on, a tick is a step, behind which the ticks of the rest follow. -/
theorem Paced.succ {next : Cell} {rest : List Cell} {timer : TimerId} {time : Duration}
    {clock : VirtualClock} {count : Nat} {onward : Progress}
    (active : session.controller.active = some ⟨⟨next :: rest⟩, timer⟩)
    (time_eq : time.nanoseconds = session.clock.now.nanoseconds + interval.nanoseconds)
    (now_eq : clock.now = time)
    (paced : ({ session with clock := clock }.deliver timer).session.Paced ⟨⟨rest⟩, timer⟩
      interval count onward) :
    session.Paced ⟨⟨next :: rest⟩, timer⟩ interval (count + 1)
      (({ session with clock := clock }.deliver timer).andThen fun _ => onward) := by
  have ticking : { session with clock := clock }.controller.active =
      some ⟨⟨next :: rest⟩, timer⟩ := active
  have delivered := deliver_of_cons ticking
  dsimp only at delivered
  rw [delivered] at paced ⊢
  obtain ⟨records_eq, cell_eq, active_eq, onward_eq, onBeat⟩ := paced
  simp only [now_eq] at records_eq onward_eq
  refine ⟨?_, ?_, ?_, ?_, onBeat⟩
  · have ticks := map_range_succ_tick time_eq (fun time index =>
      Record.event time (tickEvent session.world.mover (next :: rest) index)) count
    simp only [Progress.andThen, ticks, records_eq, now_eq,
      tickEvent_succ _ _ _ (Controller.facing session.world.mover.cell next)]
    rfl
  · simp only [Progress.andThen, cell_eq, List.take_succ_cons, List.getLastD_cons]
    rfl
  · exact active_eq.trans (if_congr Nat.add_one_le_add_one_iff.symm rfl rfl)
  · simp only [Progress.andThen, onward_eq, time_eq, Nat.add_one_mul]
    omega

/-- On a route that goes on, a tick leaves the session on the beat. -/
theorem onBeat_deliver_of_cons {next : Cell} {rest : List Cell} {timer : TimerId}
    {time : Duration} {clock : VirtualClock} {beating : Timer} (onBeat : session.OnBeat interval)
    (active : session.controller.active = some ⟨⟨next :: rest⟩, timer⟩)
    (beats : Beats interval time ⟨⟨next :: rest⟩, timer⟩ beating)
    (clock_eq : clock = { session.clock with now := time, timers := [beating] }) :
    let ticked := ({ session with clock := clock }.deliver timer).session
    ticked.clock = clock ∧ ticked.controller.active = some ⟨⟨rest⟩, timer⟩ ∧
      ticked.OnBeat interval := by
  have ticking : { session with clock := clock }.controller.active =
      some ⟨⟨next :: rest⟩, timer⟩ := active
  rw [deliver_of_cons ticking, clock_eq]
  exact ⟨rfl, rfl, onBeat.tickInterval_eq,
    .cons ⟨beats.id_eq, beats.period_eq, beats.nextDue_eq⟩ .nil⟩

/-- One interval more fits into a stretch of time than into the one that is left when the first
interval has passed. -/
theorem intervals_of_due {now time : Duration} (interval_pos : 0 < interval.nanoseconds)
    (time_eq : time.nanoseconds = now.nanoseconds + interval.nanoseconds)
    (within : time ≤ limit) :
    (limit.nanoseconds - now.nanoseconds) / interval.nanoseconds =
      (limit.nanoseconds - time.nanoseconds) / interval.nanoseconds + 1 := by
  have within := Duration.le_iff.mp within
  rw [Nat.div_eq_sub_div interval_pos (by omega), time_eq, Nat.sub_sub]

theorem exists_paced {session : Session} (interval_pos : 0 < interval.nanoseconds)
    (goes_on : ∀ session : Session, session.controller.isMoving = true → goesOn session = true)
    {cells : List Cell} {timer : TimerId} (onBeat : session.OnBeat interval)
    (active : session.controller.active = some ⟨⟨cells⟩, timer⟩) (limit : Duration) :
    let count := min (cells.length + 1)
      ((limit.nanoseconds - session.clock.now.nanoseconds) / interval.nanoseconds)
    ∃ progress, session.Delivers goesOn limit ((List.range count).map fun index =>
        ⟨tickTime session.clock.now interval index, timer⟩) progress ∧
      session.Paced ⟨⟨cells⟩, timer⟩ interval count progress := by
  intro count
  have moving : goesOn session = true := goes_on session (by simp [Controller.isMoving, active])
  rcases onBeat.popDue?_of_walking active limit with
    ⟨early, nothing⟩ | ⟨time, beating, time_eq, within, beats, popped⟩
  · have quotient_eq :
        (limit.nanoseconds - session.clock.now.nanoseconds) / interval.nanoseconds = 0 :=
      Nat.div_eq_of_lt (by omega)
    have count_eq : count = 0 := by
      rw [← Nat.min_zero (cells.length + 1), ← quotient_eq]
    rw [count_eq]
    exact ⟨_, .stop (Or.inr nothing), paced_zero onBeat active⟩
  · have count_eq : count = min cells.length
        ((limit.nanoseconds - time.nanoseconds) / interval.nanoseconds) + 1 := by
      rw [← Nat.add_min_add_right, ← intervals_of_due interval_pos time_eq within]
    let clock : VirtualClock := { session.clock with now := time, timers := [beating] }
    let ticked := { session with clock := clock }.deliver timer
    have ticks := map_range_succ_tick time_eq (fun time _ => Firing.mk time timer)
    rw [count_eq, ticks]
    cases cells with
    | nil =>
        have ticking : { session with clock := clock }.controller.active = some ⟨⟨[]⟩, timer⟩ :=
          active
        obtain ⟨notes, delivered⟩ := deliver_of_nil ticking
        have none_left : ticked.session.clock.timers = [] := by
          simp [ticked, delivered, clock, VirtualClock.cancel, beats.id_eq]
        have paced : session.Paced ⟨⟨[]⟩, timer⟩ interval 1 ticked :=
          paced_one onBeat active time_eq beats rfl
        rw [← ticked.andThen_nothing] at paced
        rw [List.length_nil, Nat.zero_min]
        exact ⟨_, .tick moving popped
          (.stop (Or.inr (VirtualClock.popDue?_of_no_timers none_left))), paced⟩
    | cons next rest =>
        obtain ⟨clock_eq, onward_active, onward_onBeat⟩ :=
          onBeat_deliver_of_cons onBeat active beats rfl
        obtain ⟨onward, delivers, paced⟩ :=
          exists_paced interval_pos goes_on onward_onBeat onward_active limit
        rw [clock_eq] at delivers paced
        exact ⟨_, .tick moving popped delivers, paced.succ active time_eq rfl⟩

/-- While a move is in progress, one tick is delivered an interval, one for each cell of the route
and one to settle, as far as they are due by the limit. -/
theorem paced_deliverWhile (interval_pos : 0 < interval.nanoseconds)
    (goes_on : ∀ session : Session, session.controller.isMoving = true → goesOn session = true)
    (onBeat : session.OnBeat interval) (active : session.controller.active = some move)
    (limit : Duration) :
    let count := min (move.route.length + 1)
      ((limit.nanoseconds - session.clock.now.nanoseconds) / interval.nanoseconds)
    let progress := session.deliverWhile goesOn limit
    session.Delivers goesOn limit ((List.range count).map fun index =>
        ⟨tickTime session.clock.now interval index, move.timer⟩) progress ∧
      session.Paced move interval count progress := by
  obtain ⟨⟨cells⟩, timer⟩ := move
  obtain ⟨progress, delivers, paced⟩ := exists_paced interval_pos goes_on onBeat active limit
  rw [delivers.eq_deliverWhile]
  exact ⟨delivers, paced⟩

/-! ## Waits -/

/-- The instant that a number of intervals from now reaches. -/
def waitLimit (now interval : Duration) (ticks : UInt32) : Duration :=
  .saturating (now.nanoseconds + ticks.toNat * interval.nanoseconds)

theorem wait_eq (interval_eq : session.tickInterval = interval) (ticks : UInt32) :
    session.wait ticks = session.waitUntil (waitLimit session.elapsed interval ticks) := by
  have limit_eq : session.elapsed.saturatingAdd (session.tickInterval.saturatingMul ticks.toNat) =
      waitLimit session.elapsed interval ticks := by
    rw [interval_eq, Duration.ext_iff]
    simp only [Duration.saturatingAdd, Duration.saturatingMul, waitLimit,
      Duration.nanoseconds_saturating, Nat.mul_comm interval.nanoseconds]
    omega
  rw [wait, limit_eq]

/-- A wait reaches the number of intervals asked for, or as many as the greatest duration holds. -/
theorem intervals_waitLimit (interval_pos : 0 < interval.nanoseconds) (now : Duration)
    (ticks : UInt32) :
    ((waitLimit now interval ticks).nanoseconds - now.nanoseconds) / interval.nanoseconds =
      min ticks.toNat ((Duration.mostNanoseconds - now.nanoseconds) / interval.nanoseconds) := by
  have now_le := now.nanoseconds_le
  have span_eq : (waitLimit now interval ticks).nanoseconds - now.nanoseconds =
      min (ticks.toNat * interval.nanoseconds) (Duration.mostNanoseconds - now.nanoseconds) := by
    rw [waitLimit, Duration.nanoseconds_saturating]
    omega
  rw [span_eq]
  rcases Nat.le_total (ticks.toNat * interval.nanoseconds)
    (Duration.mostNanoseconds - now.nanoseconds) with fits | exceeds
  · have ticks_le := (Nat.le_div_iff_mul_le interval_pos).mpr fits
    rw [Nat.min_eq_left fits, Nat.min_eq_left ticks_le, Nat.mul_div_cancel _ interval_pos]
  · rw [Nat.mul_comm] at exceeds
    have le_ticks := Nat.div_le_of_le_mul exceeds
    rw [Nat.mul_comm] at exceeds
    rw [Nat.min_eq_right exceeds, Nat.min_eq_right le_ticks]

/-- A wait ends behind every tick that it delivers. -/
theorem max_waitLimit {now reached : Duration} {ticks : UInt32} {count : Nat}
    (reached_eq : reached.nanoseconds = now.nanoseconds + count * interval.nanoseconds)
    (count_le : count ≤ min ticks.toNat
      ((Duration.mostNanoseconds - now.nanoseconds) / interval.nanoseconds)) :
    max reached (waitLimit now interval ticks) = waitLimit now interval ticks := by
  have now_le := now.nanoseconds_le
  obtain ⟨asked, fits⟩ := Nat.le_min.mp count_le
  have asked_scaled := Nat.mul_le_mul_right interval.nanoseconds asked
  have fits_scaled := Nat.mul_le_mul_right interval.nanoseconds fits
  have held := Nat.div_mul_le_self (Duration.mostNanoseconds - now.nanoseconds) interval.nanoseconds
  rw [Duration.ext_iff, Duration.nanoseconds_max, waitLimit, Duration.nanoseconds_saturating]
  omega

/-- Behind a wait the next tick is as far away as behind the last tick that was delivered: either
the wait ended with that tick, or no duration holds a further one. -/
theorem checkedAdd_waitLimit (interval_pos : 0 < interval.nanoseconds) {now reached : Duration}
    {ticks : UInt32} (reached_eq : reached.nanoseconds = now.nanoseconds +
      min ticks.toNat ((Duration.mostNanoseconds - now.nanoseconds) / interval.nanoseconds) *
        interval.nanoseconds) :
    (waitLimit now interval ticks).checkedAdd interval = reached.checkedAdd interval := by
  have now_le := now.nanoseconds_le
  have behind := Nat.lt_mul_div_succ (Duration.mostNanoseconds - now.nanoseconds) interval_pos
  generalize (Duration.mostNanoseconds - now.nanoseconds) / interval.nanoseconds = fitting at *
  rw [Nat.mul_comm, Nat.add_one_mul] at behind
  rcases Nat.lt_or_ge fitting ticks.toNat with exceeds | fits
  · rw [Nat.min_eq_right (Nat.le_of_lt exceeds)] at reached_eq
    have scaled := Nat.mul_le_mul_right interval.nanoseconds exceeds
    rw [Nat.succ_eq_add_one, Nat.add_one_mul] at scaled
    have limit_far : (waitLimit now interval ticks).checkedAdd interval = none := by
      refine Duration.checked_eq_none_iff.mpr ?_
      rw [waitLimit, Duration.nanoseconds_saturating]
      omega
    have reached_far : reached.checkedAdd interval = none :=
      Duration.checked_eq_none_iff.mpr (by omega)
    rw [limit_far, reached_far]
  · rw [Nat.min_eq_left fits] at reached_eq
    have within := reached.nanoseconds_le
    have same : waitLimit now interval ticks = reached := by
      rw [Duration.ext_iff, waitLimit, Duration.nanoseconds_saturating]
      omega
    rw [same]

/-- Moving time forward keeps a session on the beat if the next tick stays as far away. -/
theorem OnBeat.moveTo (onBeat : session.OnBeat interval) (limit : Duration)
    (as_far : session.controller.active ≠ none →
      (max session.clock.now limit).checkedAdd interval =
        session.clock.now.checkedAdd interval) :
    OnBeat interval { session with clock := session.clock.moveTo limit } := by
  refine ⟨onBeat.tickInterval_eq, ?_⟩
  by_cases idle : session.controller.active = none
  · have none_left := onBeat.timers_of_idle idle
    simp only [idle, VirtualClock.moveTo, none_left]
    exact .nil
  · refine onBeat.timers.imp ?_
    rintro move timer ⟨id_eq, period_eq, nextDue_eq⟩
    exact ⟨id_eq, period_eq, nextDue_eq.trans (as_far idle).symm⟩

/-- A session without a move in progress waits in silence. -/
theorem delivers_of_idle (onBeat : session.OnBeat interval)
    (idle : session.controller.active = none) (goesOn : Session → Bool) (limit : Duration) :
    session.Delivers goesOn limit [] ⟨session, [], []⟩ :=
  .stop (Or.inr (VirtualClock.popDue?_of_no_timers (onBeat.timers_of_idle idle)))

/-- What a wait delivers while a move is in progress. -/
theorem paced_wait (interval_pos : 0 < interval.nanoseconds) (onBeat : session.OnBeat interval)
    (active : session.controller.active = some move) (ticks : UInt32) :
    let limit := waitLimit session.elapsed interval ticks
    let count := min (move.route.length + 1) (min ticks.toNat
      ((Duration.mostNanoseconds - session.elapsed.nanoseconds) / interval.nanoseconds))
    let delivered := session.deliverWhile (fun _ => true) limit
    session.Delivers (fun _ => true) limit ((List.range count).map fun index =>
        ⟨tickTime session.elapsed interval index, move.timer⟩) delivered ∧
      session.Paced move interval count delivered := by
  intro limit count delivered
  have intervals : (limit.nanoseconds - session.clock.now.nanoseconds) / interval.nanoseconds = _ :=
    intervals_waitLimit interval_pos session.clock.now ticks
  have paced := paced_deliverWhile interval_pos (fun _ _ => rfl) onBeat active limit
  rw [intervals] at paced
  exact paced

theorem elapsed_wait (interval_pos : 0 < interval.nanoseconds) (onBeat : session.OnBeat interval)
    (ticks : UInt32) :
    (session.wait ticks).session.elapsed = waitLimit session.elapsed interval ticks := by
  rw [wait_eq onBeat.tickInterval_eq, waitUntil]
  cases active : session.controller.active with
  | none =>
      rw [(delivers_of_idle onBeat active _ _).eq_deliverWhile]
      refine max_waitLimit ?_ (Nat.zero_le _)
      rw [Nat.zero_mul]
      rfl
  | some move =>
      obtain ⟨-, paced⟩ := paced_wait interval_pos onBeat active ticks
      exact max_waitLimit paced.now_eq (Nat.min_le_right _ _)

theorem onBeat_wait (interval_pos : 0 < interval.nanoseconds) (onBeat : session.OnBeat interval)
    (ticks : UInt32) : (session.wait ticks).session.OnBeat interval := by
  rw [wait_eq onBeat.tickInterval_eq, waitUntil]
  cases active : session.controller.active with
  | none =>
      rw [(delivers_of_idle onBeat active _ _).eq_deliverWhile]
      exact onBeat.moveTo _ fun moving => absurd active moving
  | some move =>
      obtain ⟨-, paced⟩ := paced_wait interval_pos onBeat active ticks
      have ends : max _ (waitLimit session.elapsed interval ticks) = _ :=
        max_waitLimit paced.now_eq (Nat.min_le_right _ _)
      refine paced.onBeat.moveTo _ fun moving => ?_
      rw [ends]
      refine checkedAdd_waitLimit interval_pos ?_
      -- The move goes on, so that it was the wait that ended, and not the route.
      have unfinished : ¬ move.route.length + 1 ≤ min ticks.toNat
          ((Duration.mostNanoseconds - session.elapsed.nanoseconds) / interval.nanoseconds) := by
        intro finished
        rw [paced.active_eq, Nat.min_eq_left finished, if_neg (Nat.not_succ_le_self _)] at moving
        exact moving rfl
      rw [paced.now_eq, Nat.min_eq_right (Nat.le_of_not_le unfinished)]
      rfl

theorem onBeat_performAll (shortest_le : shortestPeriod ≤ interval)
    (onBeat : session.OnBeat interval) (actions : List Action) :
    (session.performAll actions).session.OnBeat interval := by
  have interval_pos : 0 < interval.nanoseconds :=
    Nat.lt_of_lt_of_le (by decide) (Duration.le_iff.mp shortest_le)
  induction actions generalizing session with
  | nil => exact onBeat
  | cons action actions induction =>
      have performed : (session.perform action).session.OnBeat interval := by
        cases action with
        | moveTo target => exact onBeat_request shortest_le onBeat target
        | wait ticks => exact onBeat_wait interval_pos onBeat ticks
        | key direction => exact onBeat_press onBeat direction
      exact induction performed

/-- A wait delivers one tick for each interval while a move is in progress, as long as the route is
not used up and a duration holds the time. Time ends up so many intervals later, or at the greatest
duration. -/
theorem wait_keeps_pace (layout : Layout) (settings : Settings) (accepted : settings.Accepted)
    (actions : List Action) (ticks : UInt32) :
    let session := ((start layout settings).session.performAll actions).session
    let interval := settings.movement.tickInterval
    let now := session.elapsed
    let limit := waitLimit now interval ticks
    let delivered := session.deliverWhile (fun _ => true) limit
    let progress := session.perform (.wait ticks)
    progress.session.elapsed = limit ∧
      delivered.session.clock.advanceTo limit = ([], progress.session.clock) ∧
      progress = ⟨{ delivered.session with clock := progress.session.clock }, delivered.records,
        delivered.notes⟩ ∧
      (session.controller.active = none →
        session.Delivers (fun _ => true) limit [] delivered ∧ progress.records = []) ∧
      ∀ move, session.controller.active = some move →
        let count := min (move.route.length + 1) (min ticks.toNat
          ((Duration.mostNanoseconds - now.nanoseconds) / interval.nanoseconds))
        session.Delivers (fun _ => true) limit
            ((List.range count).map fun index => ⟨tickTime now interval index, move.timer⟩)
            delivered ∧
          progress.records = ((List.range count).map fun index =>
            .event (tickTime now interval index)
              (tickEvent session.world.mover move.route.cells index)) ∧
          progress.session.world.mover.cell =
            (move.route.cells.take count).getLastD session.world.mover.cell ∧
          progress.session.controller.active =
            if count ≤ move.route.length then
              some ⟨⟨move.route.cells.drop count⟩, move.timer⟩
            else none := by
  intro session interval now limit delivered progress
  have shortest_le : shortestPeriod ≤ interval := Settings.shortestPeriod_le_of_accepted accepted
  have interval_pos : 0 < interval.nanoseconds :=
    Nat.lt_of_lt_of_le (by decide) (Duration.le_iff.mp shortest_le)
  have onBeat : session.OnBeat interval :=
    onBeat_performAll shortest_le (onBeat_start layout settings) actions
  have progress_eq : progress = session.waitUntil limit := wait_eq onBeat.tickInterval_eq ticks
  have records_eq : progress.records = delivered.records := by
    rw [progress_eq]
    exact List.append_nil _
  refine ⟨elapsed_wait interval_pos onBeat ticks, ?_, ?_, ?_, ?_⟩
  · rw [progress_eq]
    exact advanceTo_deliverWhile session limit
  · rw [progress_eq]
    simp only [waitUntil, Progress.andThen, List.append_nil]
    rfl
  · intro idle
    have nothing := delivers_of_idle onBeat idle (fun _ => true) limit
    have delivered_eq : delivered = _ := nothing.eq_deliverWhile
    rw [records_eq, delivered_eq]
    exact ⟨nothing, rfl⟩
  · intro move active count
    obtain ⟨delivers, paced⟩ := paced_wait interval_pos onBeat active ticks
    refine ⟨delivers, ?_, ?_, ?_⟩
    · rw [records_eq]
      exact paced.records_eq
    · rw [progress_eq]
      exact paced.cell_eq
    · rw [progress_eq]
      exact paced.active_eq

/-- A mover that has taken one step of three takes the other two while two intervals pass, and has
not settled then. -/
theorem wait_along_row :
    let session := ((start (Layout.plain ⟨4, 1⟩) {}).session.performAll
      [.moveTo ⟨3, 0⟩, .wait 1]).session
    Settings.Accepted {} ∧ (session.perform (.wait 2)).records =
      [.event (.ofMilliseconds 240) (.moverAdvanced .east ⟨1, 0⟩ ⟨2, 0⟩ ⟨2, by decide⟩),
        .event (.ofMilliseconds 360) (.moverAdvanced .east ⟨2, 0⟩ ⟨3, 0⟩ ⟨3, by decide⟩)] := by
  intro session
  have accepted : Settings.Accepted {} := Or.inl rfl
  have active : session.controller.active = some ⟨⟨[⟨2, 0⟩, ⟨3, 0⟩]⟩, ⟨0⟩⟩ := by decide +kernel
  have paced := wait_keeps_pace (Layout.plain ⟨4, 1⟩) {} accepted [.moveTo ⟨3, 0⟩, .wait 1] 2
  obtain ⟨-, records_eq, -, -⟩ := paced.2.2.2.2 _ active
  refine ⟨accepted, records_eq.trans ?_⟩
  decide +kernel

end Session
end GridWalk
