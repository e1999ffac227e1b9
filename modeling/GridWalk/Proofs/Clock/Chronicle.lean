import GridWalk.Proofs.Clock.Slices

/-!
# The chronicle of a clock

What happens on a clock, told in order: timers are asked for, cancelled, and fire. The chronicle
alone says which timers run and how often each of them has fired. A clock agrees with it: its timers
are those that run, each waits for the instant that its own period leads to, and none waits for an
instant that is past.
-/

namespace GridWalk
namespace VirtualClock

/-- Something that happened on a clock. -/
inductive Occurrence where
  /-- A timer was asked for at an instant, and a handle was handed out. -/
  | scheduled (id : TimerId) (since period : Duration)
  | cancelled (id : TimerId)
  | fired (firing : Firing)
  deriving DecidableEq

/-- The handle that was handed out. -/
def Occurrence.handedOut? : Occurrence → Option TimerId
  | .scheduled id _ _ => some id
  | _ => none

/-- Whether the timer with the handle fired. -/
def Occurrence.isFiringOf (id : TimerId) : Occurrence → Bool
  | .fired firing => firing.timer = id
  | _ => false

/-- What happens during an operation. -/
def occurrences (clock : VirtualClock) : Operation → List Occurrence
  | .schedule period => [.scheduled (clock.schedule period).1 clock.now period]
  | .cancel id => [.cancelled id]
  | .popDue limit => (clock.popDue? limit).toList.map (.fired ·.1)
  | .advanceTo limit => (clock.advanceTo limit).1.map .fired
  | .advance span => (clock.advance span).1.map .fired
  | .advanceToNext => clock.advanceToNext.1.map .fired

/-- What happens during several operations. -/
def chronicle (clock : VirtualClock) : List Operation → List Occurrence
  | [] => []
  | operation :: operations =>
      clock.occurrences operation ++ (clock.perform operation).chronicle operations

/-- All handles that were handed out. -/
def handedOut (chronicle : List Occurrence) : List TimerId :=
  chronicle.filterMap Occurrence.handedOut?

/-- A timer runs: its handle was handed out at an instant for a period, and since then the timer was
not cancelled and has fired so many times. -/
def Runs (chronicle : List Occurrence) (id : TimerId) (since period : Duration) (count : Nat) :
    Prop :=
  ∃ before behind, chronicle = before ++ .scheduled id since period :: behind ∧
    .cancelled id ∉ behind ∧ behind.countP (·.isFiringOf id) = count

/-- The nanoseconds at which a timer fires that has fired so many times before. -/
def dueAfter (since period : Duration) (count : Nat) : Nat :=
  since.nanoseconds + (count + 1) * (max period shortestPeriod).nanoseconds

variable {clock later : VirtualClock} {limit since period : Duration} {id : TimerId}
  {firing : Firing} {count : Nat} {told : List Occurrence} {latest : Occurrence}

/-! ## One occurrence more -/

private theorem concat_eq_append_cons_iff {before behind : List Occurrence} {first : Occurrence} :
    told ++ [latest] = before ++ first :: behind ↔
      (told = before ∧ latest = first ∧ behind = []) ∨
        ∃ front, behind = front ++ [latest] ∧ told = before ++ first :: front := by
  constructor
  · intro same
    rcases List.eq_nil_or_concat' behind with rfl | ⟨front, last, rfl⟩
    · obtain ⟨told_eq, latest_eq⟩ := List.append_inj' same rfl
      exact Or.inl ⟨told_eq, List.head_eq_of_cons_eq latest_eq, rfl⟩
    · rw [← List.cons_append, ← List.append_assoc] at same
      obtain ⟨told_eq, latest_eq⟩ := List.append_inj' same rfl
      exact Or.inr ⟨front, by rw [latest_eq], told_eq⟩
  · rintro (⟨rfl, rfl, rfl⟩ | ⟨front, rfl, rfl⟩)
    · rfl
    · rw [List.append_assoc, List.cons_append]

/-- A timer runs from the moment when its handle is handed out until it is cancelled. -/
theorem runs_concat_iff : Runs (told ++ [latest]) id since period count ↔
    (latest = .scheduled id since period ∧ count = 0) ∨
      ∃ earlier, Runs told id since period earlier ∧ latest ≠ .cancelled id ∧
        count = earlier + if latest.isFiringOf id then 1 else 0 := by
  constructor
  · rintro ⟨before, behind, told_eq, kept, rfl⟩
    rcases concat_eq_append_cons_iff.mp told_eq with ⟨-, rfl, rfl⟩ | ⟨front, rfl, rfl⟩
    · exact Or.inl ⟨rfl, rfl⟩
    · rw [List.mem_append, not_or, List.mem_singleton] at kept
      refine Or.inr ⟨_, ⟨before, front, rfl, kept.1, rfl⟩, Ne.symm kept.2, ?_⟩
      rw [List.countP_append, List.countP_singleton]
  · rintro (⟨rfl, rfl⟩ | ⟨_, ⟨before, front, rfl, kept, rfl⟩, latest_ne, rfl⟩)
    · exact ⟨told, [], rfl, List.not_mem_nil, rfl⟩
    · refine ⟨before, front ++ [latest], by rw [List.append_assoc, List.cons_append], ?_, ?_⟩
      · rw [List.mem_append, not_or, List.mem_singleton]
        exact ⟨kept, Ne.symm latest_ne⟩
      · rw [List.countP_append, List.countP_singleton]

/-- A timer that is not cancelled runs on. -/
theorem Runs.concat (runs : Runs told id since period count) (kept : latest ≠ .cancelled id) :
    Runs (told ++ [latest]) id since period (count + if latest.isFiringOf id then 1 else 0) :=
  runs_concat_iff.mpr (Or.inr ⟨count, runs, kept, rfl⟩)

theorem handedOut_concat : handedOut (told ++ [latest]) =
    handedOut told ++ latest.handedOut?.toList := by
  rw [handedOut, List.filterMap_append]
  cases handed : latest.handedOut? <;> simp [handed, handedOut]

/-- Timers fire while they run, and each at the instant that its period leads to. -/
def FiresOnTime (chronicle : List Occurrence) : Prop :=
  ∀ earlier firing later, chronicle = earlier ++ .fired firing :: later →
    ∃ since period count, Runs earlier firing.timer since period count ∧
      firing.time.nanoseconds = dueAfter since period count

theorem FiresOnTime.concat (onTime : FiresOnTime told)
    (latest_onTime : ∀ firing, latest = .fired firing → ∃ since period count,
      Runs told firing.timer since period count ∧
        firing.time.nanoseconds = dueAfter since period count) :
    FiresOnTime (told ++ [latest]) := by
  intro earlier firing later told_eq
  rcases concat_eq_append_cons_iff.mp told_eq with ⟨rfl, rfl, -⟩ | ⟨front, -, rfl⟩
  · exact latest_onTime firing rfl
  · exact onTime earlier firing front rfl

/-! ## Agreement -/

/-- The timer with the handle of the firing was waiting for it. -/
theorem Pops.nextDue_of_id_eq {timer : Timer} (pops : clock.Pops limit firing later)
    (nodup : clock.handles.Nodup) (member : timer ∈ clock.timers)
    (same : timer.id = firing.timer) : timer.nextDue = some firing.time :=
  (Timer.due?_eq_some_iff.mp (pops.due?_of_id_eq nodup member same)).1

/-- No timer waits for an earlier instant than that of the firing that comes first. -/
theorem Pops.time_le_of_nextDue {timer : Timer} {due : Duration}
    (pops : clock.Pops limit firing later) (member : timer ∈ clock.timers)
    (pending : timer.nextDue = some due) : firing.time ≤ due := by
  have time_le := Duration.le_iff.mp pops.time_le
  rw [Duration.le_iff]
  by_cases within : due ≤ limit
  · have due_by_limit : timer.due? limit = some ⟨due, timer.id⟩ :=
      Timer.due?_eq_some_iff.mpr ⟨pending, within, rfl⟩
    have not_before := pops.least timer member _ due_by_limit
    rw [← Bool.not_eq_true, Firing.before_iff] at not_before
    exact Nat.le_of_not_lt fun past => not_before (Or.inl past)
  · rw [Duration.le_iff] at within
    omega

/-- A timer keeps to its schedule: it repeats with its period and waits for the next instant. -/
structure Keeps (timer : Timer) (since period : Duration) (count : Nat) : Prop where
  period_eq : timer.period = max period shortestPeriod
  nextDue_eq : timer.nextDue = Duration.checked (dueAfter since period count)

/-- A clock agrees with what happened on it. -/
structure Agrees (chronicle : List Occurrence) (clock : VirtualClock) : Prop where
  sound : clock.Sound
  nodup : (handedOut chronicle).Nodup
  lt_nextId : ∀ id ∈ handedOut chronicle, id.value < clock.nextId
  firesOnTime : FiresOnTime chronicle
  /-- Every timer that runs is kept. -/
  timer_of_runs : ∀ id since period count, Runs chronicle id since period count →
    ∃ timer ∈ clock.timers, timer.id = id ∧ Keeps timer since period count
  /-- No other timer is. -/
  runs_of_mem : ∀ timer ∈ clock.timers, ∃ since period count,
    Runs chronicle timer.id since period count
  /-- No timer waits for an instant that is past. -/
  now_le : ∀ timer ∈ clock.timers, ∀ due ∈ timer.nextDue, clock.now ≤ due

theorem dueAfter_succ (since period : Duration) (count : Nat) : dueAfter since period (count + 1) =
    dueAfter since period count + (max period shortestPeriod).nanoseconds := by
  rw [dueAfter, dueAfter, Nat.add_one_mul (count + 1), ← Nat.add_assoc]

theorem Keeps.time_eq {timer : Timer} (keeps : Keeps timer since period count)
    (next : timer.nextDue = some firing.time) :
    firing.time.nanoseconds = dueAfter since period count :=
  Duration.checked_eq_some_iff.mp (keeps.nextDue_eq.symm.trans next)

/-- A timer that fires keeps to its schedule. -/
theorem Keeps.advance {timer : Timer} (keeps : Keeps timer since period count)
    (next : timer.nextDue = some firing.time) : Keeps timer.advance since period (count + 1) := by
  have advanced : timer.advance.nextDue = firing.time.checkedAdd timer.period := by
    rw [Timer.advance, next, Option.bind_some]
  refine ⟨keeps.period_eq, ?_⟩
  rw [advanced, Duration.checkedAdd, keeps.time_eq next, keeps.period_eq, dueAfter_succ]

namespace Agrees

theorem of_initial : Agrees [] initial := by
  constructor
  case sound => exact sound_initial
  case nodup => exact List.nodup_nil
  case lt_nextId =>
    intro id member
    cases member
  case firesOnTime =>
    intro earlier firing later nothing
    simp at nothing
  case timer_of_runs =>
    rintro id since period count ⟨before, behind, nothing, -⟩
    simp at nothing
  case runs_of_mem =>
    intro timer member
    cases member
  case now_le =>
    intro timer member
    cases member

/-- A timer that the clock has keeps to the schedule of the timer that runs under its handle. -/
theorem keeps_of_mem {timer : Timer} (agrees : Agrees told clock) (member : timer ∈ clock.timers) :
    ∃ since period count, Runs told timer.id since period count ∧
      Keeps timer since period count := by
  obtain ⟨since, period, count, runs⟩ := agrees.runs_of_mem timer member
  obtain ⟨kept, kept_member, same, keeps⟩ := agrees.timer_of_runs _ _ _ _ runs
  obtain rfl := List.inj_on_of_nodup_map agrees.sound.nodup kept_member member same
  exact ⟨since, period, count, runs, keeps⟩

theorem schedule (agrees : Agrees told clock) (period : Duration) :
    Agrees (told ++ [.scheduled ⟨clock.nextId⟩ clock.now period]) (clock.schedule period).2 := by
  have handedOut_eq : handedOut (told ++ [.scheduled ⟨clock.nextId⟩ clock.now period]) =
      handedOut told ++ [⟨clock.nextId⟩] := handedOut_concat
  constructor
  case sound => exact sound_perform agrees.sound (.schedule period)
  case nodup =>
    rw [handedOut_eq, ← List.concat_eq_append]
    refine agrees.nodup.concat fun member => ?_
    exact Nat.lt_irrefl _ (agrees.lt_nextId _ member)
  case lt_nextId =>
    intro id member
    rw [handedOut_eq] at member
    rcases List.mem_append.mp member with old | new
    · exact Nat.lt_succ_of_lt (agrees.lt_nextId id old)
    · rw [List.mem_singleton.mp new]
      exact Nat.lt_succ_self _
  case firesOnTime => exact agrees.firesOnTime.concat (by simp)
  case timer_of_runs =>
    intro id since other count goes_on
    rcases runs_concat_iff.mp goes_on with ⟨same, rfl⟩ | ⟨earlier, runs, -, rfl⟩
    · cases same
      refine ⟨_, List.mem_append_right _ (List.mem_singleton.mpr rfl), rfl, rfl, ?_⟩
      rw [dueAfter, Nat.zero_add, Nat.one_mul]
      rfl
    · obtain ⟨timer, member, same, keeps⟩ := agrees.timer_of_runs _ _ _ _ runs
      exact ⟨timer, List.mem_append_left _ member, same, keeps⟩
  case runs_of_mem =>
    intro timer member
    rcases List.mem_append.mp member with member | member
    · obtain ⟨since, other, count, runs⟩ := agrees.runs_of_mem timer member
      exact ⟨since, other, _, runs.concat (by simp)⟩
    · obtain rfl := List.mem_singleton.mp member
      exact ⟨_, _, 0, runs_concat_iff.mpr (Or.inl ⟨rfl, rfl⟩)⟩
  case now_le =>
    intro timer member due pending
    rcases List.mem_append.mp member with member | member
    · exact agrees.now_le timer member due pending
    · obtain rfl := List.mem_singleton.mp member
      have due_eq := Duration.checked_eq_some_iff.mp pending
      rw [Duration.le_iff, due_eq]
      exact Nat.le_add_right _ _

theorem cancel (agrees : Agrees told clock) (id : TimerId) :
    Agrees (told ++ [.cancelled id]) (clock.cancel id) := by
  have handedOut_eq : handedOut (told ++ [.cancelled id]) = handedOut told :=
    handedOut_concat.trans (List.append_nil _)
  have mem_iff {timer : Timer} : timer ∈ (clock.cancel id).timers ↔
      timer ∈ clock.timers ∧ timer.id ≠ id := by
    rw [VirtualClock.cancel, List.mem_filter, decide_eq_true_eq]
  constructor
  case sound => exact sound_perform agrees.sound (.cancel id)
  case nodup => exact handedOut_eq ▸ agrees.nodup
  case lt_nextId => exact handedOut_eq ▸ agrees.lt_nextId
  case firesOnTime => exact agrees.firesOnTime.concat (by simp)
  case timer_of_runs =>
    intro other since period count goes_on
    rcases runs_concat_iff.mp goes_on with ⟨same, -⟩ | ⟨earlier, runs, kept, rfl⟩
    · cases same
    · obtain ⟨timer, member, rfl, keeps⟩ := agrees.timer_of_runs _ _ _ _ runs
      refine ⟨timer, mem_iff.mpr ⟨member, ?_⟩, rfl, keeps⟩
      rintro rfl
      exact kept rfl
  case runs_of_mem =>
    intro timer member
    obtain ⟨member, id_ne⟩ := mem_iff.mp member
    obtain ⟨since, period, count, runs⟩ := agrees.runs_of_mem timer member
    refine ⟨since, period, _, runs.concat ?_⟩
    intro same
    exact id_ne (Occurrence.cancelled.inj same).symm
  case now_le =>
    intro timer member
    exact agrees.now_le timer (mem_iff.mp member).1

/-- The timer that fires was running, and goes on. -/
theorem fire (agrees : Agrees told clock) (pops : clock.Pops limit firing later) :
    Agrees (told ++ [.fired firing]) later := by
  have handedOut_eq : handedOut (told ++ [.fired firing]) = handedOut told :=
    handedOut_concat.trans (List.append_nil _)
  have nodup := agrees.sound.nodup
  obtain rfl := pops.later_eq
  constructor
  case sound => exact agrees.sound.of_handles_eq (handles_fire clock firing) rfl
  case nodup => exact handedOut_eq ▸ agrees.nodup
  case lt_nextId => exact handedOut_eq ▸ agrees.lt_nextId
  case firesOnTime =>
    refine agrees.firesOnTime.concat ?_
    rintro _ ⟨⟩
    obtain ⟨timer, member, due⟩ := pops.due
    obtain ⟨next, -, same⟩ := Timer.due?_eq_some_iff.mp due
    obtain ⟨since, period, count, runs, keeps⟩ := agrees.keeps_of_mem member
    exact ⟨since, period, count, same ▸ runs, keeps.time_eq next⟩
  case timer_of_runs =>
    intro id since period count goes_on
    rcases runs_concat_iff.mp goes_on with ⟨same, -⟩ | ⟨earlier, runs, -, rfl⟩
    · cases same
    · obtain ⟨timer, member, rfl, keeps⟩ := agrees.timer_of_runs _ _ _ _ runs
      refine ⟨_, mem_timers_fire.mpr ⟨timer, member, rfl⟩, ?_⟩
      -- The timer that fired has fired once more; no other timer is touched.
      by_cases same : timer.id = firing.timer
      · have next := pops.nextDue_of_id_eq nodup member same
        rw [if_pos same, Occurrence.isFiringOf, if_pos (decide_eq_true same.symm)]
        exact ⟨timer.id_advance, keeps.advance next⟩
      · rw [if_neg same, Occurrence.isFiringOf, if_neg (by simpa using Ne.symm same)]
        exact ⟨rfl, keeps⟩
  case runs_of_mem =>
    intro timer member
    obtain ⟨before, before_member, rfl⟩ := mem_timers_fire.mp member
    obtain ⟨since, period, count, runs⟩ := agrees.runs_of_mem before before_member
    have id_eq : (if before.id = firing.timer then before.advance else before).id = before.id := by
      split <;> rfl
    rw [id_eq]
    exact ⟨since, period, _, runs.concat (by simp)⟩
  case now_le =>
    intro timer member due pending
    obtain ⟨before, before_member, rfl⟩ := mem_timers_fire.mp member
    rw [Duration.le_iff, VirtualClock.fire, Duration.nanoseconds_max, Nat.max_le]
    by_cases same : before.id = firing.timer
    · have next := pops.nextDue_of_id_eq nodup before_member same
      have now_le := Duration.le_iff.mp (agrees.now_le before before_member _ next)
      rw [if_pos same] at pending
      have due_eq := (Timer.nextDue_advance_eq_some_iff next).mp pending
      omega
    · rw [if_neg same] at pending
      exact ⟨agrees.now_le before before_member due pending,
        pops.time_le_of_nextDue before_member pending⟩

/-- Where nothing is due by an instant, time may move on to it. -/
theorem moveTo (agrees : Agrees told clock) (nothing : clock.popDue? limit = none) :
    Agrees told (clock.moveTo limit) where
  sound := agrees.sound.of_handles_eq rfl rfl
  nodup := agrees.nodup
  lt_nextId := agrees.lt_nextId
  firesOnTime := agrees.firesOnTime
  timer_of_runs := agrees.timer_of_runs
  runs_of_mem := agrees.runs_of_mem
  now_le := by
    intro timer member due pending
    have now_le := Duration.le_iff.mp (agrees.now_le timer member due pending)
    have silent := popDue?_eq_none_iff.mp nothing timer member
    have beyond := Timer.due?_eq_none_iff.mp silent due pending
    rw [Duration.le_iff, now_moveTo, Nat.max_le]
    exact ⟨now_le, Nat.le_of_lt beyond⟩

theorem advanceTo (agrees : Agrees told clock) (limit : Duration) :
    Agrees (told ++ (clock.advanceTo limit).1.map .fired) (clock.advanceTo limit).2 := by
  fun_induction VirtualClock.advanceTo clock limit generalizing told with
  | case1 clock nothing =>
      rw [List.map_nil, List.append_nil]
      exact agrees.moveTo nothing
  | case2 clock firing later popped rest final advanced induction =>
      have goes_on := induction (agrees.fire (pops_of_popDue? popped))
      rw [advanced, List.append_assoc] at goes_on
      exact goes_on

/-- What happens during an operation is what the chronicle of the clock gains. -/
theorem perform (agrees : Agrees told clock) (operation : Operation) :
    Agrees (told ++ clock.occurrences operation) (clock.perform operation) := by
  cases operation with
  | schedule period => exact agrees.schedule period
  | cancel id => exact agrees.cancel id
  | popDue limit =>
      rw [occurrences, VirtualClock.perform]
      cases popped : clock.popDue? limit with
      | none =>
          rw [Option.toList_none, List.map_nil, List.append_nil]
          exact agrees
      | some pair => exact agrees.fire (pops_of_popDue? popped)
  | advanceTo limit => exact agrees.advanceTo limit
  | advance span => exact agrees.advanceTo _
  | advanceToNext =>
      rw [occurrences, VirtualClock.perform, advanceToNext]
      split
      · exact agrees.advanceTo _
      · rw [List.map_nil, List.append_nil]
        exact agrees

theorem performAll (agrees : Agrees told clock) (operations : List Operation) :
    Agrees (told ++ clock.chronicle operations) (clock.performAll operations) := by
  induction operations generalizing told clock with
  | nil =>
      rw [chronicle, List.append_nil]
      exact agrees
  | cons operation operations induction =>
      rw [chronicle, ← List.append_assoc]
      exact induction (agrees.perform operation)

/-- Where no timer runs under a handle, there is nothing to cancel. -/
theorem cancel_eq (agrees : Agrees told clock)
    (idle : ∀ since period count, ¬ Runs told id since period count) : clock.cancel id = clock := by
  have kept : clock.timers.filter (·.id ≠ id) = clock.timers := by
    refine List.filter_eq_self.mpr fun timer member => decide_eq_true ?_
    rintro rfl
    obtain ⟨since, period, count, runs⟩ := agrees.runs_of_mem timer member
    exact idle since period count runs
  rw [VirtualClock.cancel, kept]

end Agrees

/-! ## Time -/

theorem now_le_perform (clock : VirtualClock) (operation : Operation) :
    clock.now ≤ (clock.perform operation).now := by
  cases operation with
  | schedule period => exact Nat.le_refl _
  | cancel id => exact Nat.le_refl _
  | popDue limit =>
      have passed := clock.now_le_pass (.popDue limit)
      rw [pass] at passed
      rw [perform]
      cases popped : clock.popDue? limit with
      | none => exact Nat.le_refl _
      | some pair =>
          rw [popped] at passed
          exact passed
  | advanceTo limit => exact clock.now_le_pass (.advanceTo limit)
  | advance span => exact clock.now_le_pass (.advance span)
  | advanceToNext => exact clock.now_le_pass .advanceToNext

theorem now_le_performAll (clock : VirtualClock) (operations : List Operation) :
    clock.now ≤ (clock.performAll operations).now := by
  induction operations generalizing clock with
  | nil => exact Nat.le_refl _
  | cons operation operations induction =>
      exact Nat.le_trans (clock.now_le_perform operation) (induction (clock.perform operation))

/-- Whatever a clock has been told, its timers are what the chronicle says. Handles are handed out
once, timers fire while they run and one period after another, and a clock keeps exactly those that
run. -/
theorem timers_agree_with_chronicle (operations : List Operation) :
    let clock := initial.performAll operations
    let chronicle := initial.chronicle operations
    (handedOut chronicle).Nodup ∧
    (∀ earlier firing later, chronicle = earlier ++ .fired firing :: later →
      ∃ since period count, Runs earlier firing.timer since period count ∧
        firing.time.nanoseconds = dueAfter since period count) ∧
    clock.handles.Nodup ∧
    (∀ id since period count, Runs chronicle id since period count →
      ∃ timer ∈ clock.timers, timer.id = id ∧
        timer.nextDue = Duration.checked (dueAfter since period count)) ∧
    (∀ id, (∀ since period count, ¬ Runs chronicle id since period count) →
      id ∉ clock.handles ∧ clock.cancel id = clock) ∧
    (∀ earlier later, operations = earlier ++ later →
      (initial.performAll earlier).now ≤ clock.now) ∧
    ∀ timer ∈ clock.timers, ∀ due ∈ timer.nextDue, clock.now ≤ due := by
  intro clock chronicle
  have agrees : Agrees chronicle clock := Agrees.of_initial.performAll operations
  refine ⟨agrees.nodup, agrees.firesOnTime, agrees.sound.nodup, ?_, ?_, ?_, agrees.now_le⟩
  · intro id since period count runs
    obtain ⟨timer, member, same, keeps⟩ := agrees.timer_of_runs id since period count runs
    exact ⟨timer, member, same, keeps.nextDue_eq⟩
  · intro id idle
    refine ⟨?_, agrees.cancel_eq idle⟩
    intro member
    obtain ⟨timer, timer_member, rfl⟩ := List.mem_map.mp member
    obtain ⟨since, period, count, runs⟩ := agrees.runs_of_mem timer timer_member
    exact idle since period count runs
  · rintro earlier later rfl
    have clock_eq : clock = (initial.performAll earlier).performAll later := List.foldl_append
    rw [clock_eq]
    exact now_le_performAll _ later

/-- Of two timers one fires twice and is then due a third time; the other is cancelled before it has
fired. Cancelling handles that do not run makes no difference. -/
theorem chronicle_of_two_timers :
    let operations : List Operation :=
      [.cancel ⟨1⟩, .schedule (.ofMilliseconds 30), .advance (.ofMilliseconds 5),
        .schedule (.ofMilliseconds 20), .advanceToNext, .cancel ⟨0⟩, .cancel ⟨0⟩,
        .popDue (.ofMilliseconds 60), .advanceTo (.ofMilliseconds 10)]
    let clock := initial.performAll operations
    let chronicle := initial.chronicle operations
    Runs chronicle ⟨1⟩ (.ofMilliseconds 5) (.ofMilliseconds 20) 2 ∧
      (∃ timer ∈ clock.timers, timer.id = ⟨1⟩ ∧ timer.nextDue = some (.ofMilliseconds 65)) ∧
      ⟨0⟩ ∉ clock.handles ∧ clock.now = .ofMilliseconds 45 := by
  intro operations clock chronicle
  have runs : Runs chronicle ⟨1⟩ (.ofMilliseconds 5) (.ofMilliseconds 20) 2 :=
    ⟨[.cancelled ⟨1⟩, .scheduled ⟨0⟩ .zero (.ofMilliseconds 30)],
      [.fired ⟨.ofMilliseconds 25, ⟨1⟩⟩, .cancelled ⟨0⟩, .cancelled ⟨0⟩,
        .fired ⟨.ofMilliseconds 45, ⟨1⟩⟩], by decide +kernel, by decide, by decide +kernel⟩
  have due_eq : Duration.checked (dueAfter (.ofMilliseconds 5) (.ofMilliseconds 20) 2) =
      some (.ofMilliseconds 65) := by decide +kernel
  obtain ⟨-, -, -, due, -⟩ := timers_agree_with_chronicle operations
  exact ⟨runs, due_eq ▸ due _ _ _ _ runs, by decide +kernel, by decide +kernel⟩

end VirtualClock
end GridWalk
