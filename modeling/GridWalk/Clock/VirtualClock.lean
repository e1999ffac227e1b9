import GridWalk.Clock.Scheduler

/-!
# Virtual clocks

A clock whose time moves only when it is told to. Its timers repeat with a period of at least one
millisecond, so any stretch of time holds finitely many firings; `VirtualClock.backlog` measures how
much of a stretch is left to fire and makes every loop over firings end. A timer whose next firing
no duration can hold stays silent from then on.
-/

namespace GridWalk

/-- The shortest period of a timer. -/
def shortestPeriod : Duration := Duration.ofMilliseconds 1

/-- A repeating timer. -/
structure Timer where
  /-- The handle of the timer. -/
  id : TimerId
  /-- The time between two firings. -/
  period : Duration
  /-- The instant of the next firing, absent if no duration can hold it. -/
  nextDue : Option Duration
  /-- No timer repeats faster than the shortest period. -/
  shortest_le : shortestPeriod ≤ period
  deriving DecidableEq

/-- One firing of a timer. -/
structure Firing where
  /-- When the timer fires. -/
  time : Duration
  /-- The timer that fires. -/
  timer : TimerId
  deriving DecidableEq

namespace Firing

/-- Whether a firing comes before another: by time, and at one time by handle. -/
def before (left right : Firing) : Bool :=
  left.time.nanoseconds < right.time.nanoseconds ||
    (left.time.nanoseconds == right.time.nanoseconds && left.timer.value < right.timer.value)

/-- The earlier of two firings, the first one if neither comes before the other. -/
def earlier (left right : Firing) : Firing :=
  if right.before left then right else left

/-- The firing of a list that comes before all others, the first one in the list among equals. -/
def first? : List Firing → Option Firing
  | [] => none
  | firing :: firings => some (firings.foldl earlier firing)

theorem earlier_eq_or (left right : Firing) :
    left.earlier right = left ∨ left.earlier right = right := by
  unfold earlier
  split
  · exact Or.inr rfl
  · exact Or.inl rfl

theorem foldl_earlier_mem (firing : Firing) (firings : List Firing) :
    firings.foldl earlier firing ∈ firing :: firings := by
  induction firings generalizing firing with
  | nil => simp
  | cons next firings induction =>
      rw [List.foldl_cons]
      rcases earlier_eq_or firing next with same | same
      · rw [same]
        rcases List.mem_cons.mp (induction firing) with equal | member
        · rw [equal]
          exact List.mem_cons_self
        · exact List.mem_cons_of_mem _ (List.mem_cons_of_mem _ member)
      · rw [same]
        exact List.mem_cons_of_mem _ (induction next)

theorem mem_of_first? {firings : List Firing} {firing : Firing}
    (found : first? firings = some firing) : firing ∈ firings := by
  cases firings with
  | nil => simp [first?] at found
  | cons head tail =>
      simp only [first?, Option.some.injEq] at found
      exact found ▸ foldl_earlier_mem head tail

end Firing

namespace Timer

/-- The firing of the timer that is due by `limit`. -/
def due? (timer : Timer) (limit : Duration) : Option Firing :=
  (timer.nextDue.filter (· ≤ limit)).map fun time => ⟨time, timer.id⟩

/-- The timer after a firing, due one period later. -/
def advance (timer : Timer) : Timer :=
  { timer with nextDue := timer.nextDue.bind (·.checkedAdd timer.period) }

/-- How many nanoseconds up to `limit` lie at or behind the next firing. -/
def backlog (timer : Timer) (limit : Duration) : Nat :=
  match timer.nextDue with
  | some due => limit.nanoseconds + 1 - due.nanoseconds
  | none => 0

/-- The backlogs of several timers together. -/
def totalBacklog (limit : Duration) : List Timer → Nat
  | [] => 0
  | timer :: timers => timer.backlog limit + totalBacklog limit timers

theorem backlog_advance_le (timer : Timer) (limit : Duration) :
    timer.advance.backlog limit ≤ timer.backlog limit := by
  cases pending : timer.nextDue with
  | none => simp [backlog, advance, pending]
  | some due =>
      cases later : due.checkedAdd timer.period with
      | none => simp [backlog, advance, pending, later]
      | some next =>
          have next_eq := Duration.checked_eq_some_iff.mp later
          simp only [backlog, advance, pending, Option.bind_some, later]
          omega

theorem backlog_advance_lt {timer : Timer} {limit : Duration} {firing : Firing}
    (due : timer.due? limit = some firing) :
    timer.advance.backlog limit < timer.backlog limit := by
  simp only [due?, Option.map_eq_some_iff, Option.filter_eq_some_iff, decide_eq_true_eq] at due
  obtain ⟨time, ⟨pending, time_le⟩, _⟩ := due
  have time_le := Duration.le_iff.mp time_le
  have period_le := Duration.le_iff.mp timer.shortest_le
  have shortest_eq : shortestPeriod.nanoseconds = 1000000 := by decide
  cases later : time.checkedAdd timer.period with
  | none =>
      simp only [backlog, advance, pending, Option.bind_some, later]
      omega
  | some next =>
      have next_eq := Duration.checked_eq_some_iff.mp later
      simp only [backlog, advance, pending, Option.bind_some, later]
      omega

end Timer

/-- A clock with its timers. -/
structure VirtualClock where
  /-- The time since the clock was made. -/
  now : Duration
  /-- The number of the next handle. Fewer than 2^64 timers are assumed, so that a word holds it. -/
  nextId : Nat
  /-- The timers that are not cancelled, in the order in which they were started. -/
  timers : List Timer
  deriving DecidableEq

namespace VirtualClock

/-- A clock at time zero without timers. -/
def initial : VirtualClock := ⟨.zero, 0, []⟩

/-- Starts a timer that fires every period, or as often as a timer may. -/
def schedule (clock : VirtualClock) (period : Duration) : TimerId × VirtualClock :=
  let id : TimerId := ⟨clock.nextId⟩
  let period := max period shortestPeriod
  have shortest_le : shortestPeriod ≤ period := by
    simp only [Duration.le_iff, period, Duration.nanoseconds_max]
    exact Nat.le_max_right _ _
  let timer : Timer := ⟨id, period, clock.now.checkedAdd period, shortest_le⟩
  (id, ⟨clock.now, clock.nextId + 1, clock.timers ++ [timer]⟩)

/-- Stops every timer with the handle. -/
def cancel (clock : VirtualClock) (id : TimerId) : VirtualClock :=
  { clock with timers := clock.timers.filter (·.id ≠ id) }

instance : Scheduler VirtualClock := ⟨schedule, cancel⟩

/-- How much the timers have left to fire up to `limit`. -/
def backlog (clock : VirtualClock) (limit : Duration) : Nat :=
  Timer.totalBacklog limit clock.timers

/-- The clock after a firing: no earlier than the firing, and its timer waiting for the next. -/
def fire (clock : VirtualClock) (firing : Firing) : VirtualClock :=
  { clock with
    now := max clock.now firing.time
    timers := clock.timers.map fun timer =>
      if timer.id = firing.timer then timer.advance else timer }

/-- The first firing due by `limit`. -/
def nextFiring? (clock : VirtualClock) (limit : Duration) : Option Firing :=
  Firing.first? (clock.timers.filterMap (·.due? limit))

/-- Lets the first timer that is due by `limit` fire. When none is due the clock stays as it is. -/
def popDue? (clock : VirtualClock) (limit : Duration) : Option (Firing × VirtualClock) :=
  (clock.nextFiring? limit).map fun firing => (firing, clock.fire firing)

/-- Moves time forward to an instant, unless it lies in the past. -/
def moveTo (clock : VirtualClock) (instant : Duration) : VirtualClock :=
  { clock with now := max clock.now instant }

theorem backlog_cancel_le (clock : VirtualClock) (id : TimerId) (limit : Duration) :
    (clock.cancel id).backlog limit ≤ clock.backlog limit := by
  simp only [backlog, cancel]
  induction clock.timers with
  | nil => simp
  | cons timer timers induction =>
      rw [List.filter_cons]
      split
      · simp only [Timer.totalBacklog]
        omega
      · simp only [Timer.totalBacklog]
        omega

private theorem totalBacklog_fire_le (firing : Firing) (limit : Duration) (timers : List Timer) :
    Timer.totalBacklog limit (timers.map fun timer =>
      if timer.id = firing.timer then timer.advance else timer) ≤
      Timer.totalBacklog limit timers := by
  induction timers with
  | nil => simp
  | cons timer timers induction =>
      have head_le := timer.backlog_advance_le limit
      simp only [List.map_cons, Timer.totalBacklog]
      split <;> omega

private theorem totalBacklog_fire_lt {firing : Firing} {limit : Duration} {timer : Timer}
    {timers : List Timer} (member : timer ∈ timers) (due : timer.due? limit = some firing) :
    Timer.totalBacklog limit (timers.map fun timer =>
      if timer.id = firing.timer then timer.advance else timer) <
      Timer.totalBacklog limit timers := by
  induction timers with
  | nil => simp at member
  | cons head timers induction =>
      simp only [List.map_cons, Timer.totalBacklog]
      rcases List.mem_cons.mp member with rfl | member
      · have id_eq : timer.id = firing.timer := by
          simp only [Timer.due?, Option.map_eq_some_iff] at due
          obtain ⟨_, _, rfl⟩ := due
          rfl
        have head_lt := Timer.backlog_advance_lt due
        have tail_le := totalBacklog_fire_le firing limit timers
        rw [if_pos id_eq]
        omega
      · have head_le := head.backlog_advance_le limit
        have tail_lt := induction member
        split <;> omega

/-- Every firing leaves less to fire. -/
theorem backlog_popDue?_lt {clock later : VirtualClock} {limit : Duration} {firing : Firing}
    (popped : clock.popDue? limit = some (firing, later)) :
    later.backlog limit < clock.backlog limit := by
  simp only [popDue?, Option.map_eq_some_iff, Prod.mk.injEq] at popped
  obtain ⟨_, found, rfl, rfl⟩ := popped
  have member := Firing.mem_of_first? found
  obtain ⟨timer, timer_mem, due⟩ := List.mem_filterMap.mp member
  exact totalBacklog_fire_lt timer_mem due

/-- Lets everything due by `limit` fire in order and moves time forward to `limit`. -/
def advanceTo (clock : VirtualClock) (limit : Duration) : List Firing × VirtualClock :=
  match _popped : clock.popDue? limit with
  | none => ([], clock.moveTo limit)
  | some (firing, later) =>
      let (firings, final) := later.advanceTo limit
      (firing :: firings, final)
termination_by clock.backlog limit
decreasing_by exact backlog_popDue?_lt ‹_›

/-- Moves time forward by a span and lets everything due on the way fire. -/
def advance (clock : VirtualClock) (span : Duration) : List Firing × VirtualClock :=
  clock.advanceTo (clock.now.saturatingAdd span)

/-- The next instant at which a timer fires. -/
def nextInstant? (clock : VirtualClock) : Option Duration :=
  (clock.nextFiring? .longest).map Firing.time

/-- Moves time forward to the next firing and lets everything due by then fire. When no timer will
fire again the clock stays as it is. -/
def advanceToNext (clock : VirtualClock) : List Firing × VirtualClock :=
  match clock.nextInstant? with
  | some instant => clock.advanceTo instant
  | none => ([], clock)

end VirtualClock

end GridWalk
