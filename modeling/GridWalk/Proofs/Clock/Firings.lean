import GridWalk.Clock.VirtualClock
import Mathlib.Data.List.Sort
import Mathlib.Order.Bounds.Basic

/-!
# The firings of a timer

Firings are ordered by time and then by handle. A timer left alone fires at its next due instant and
once a period from then on, as long as a duration can hold the instant; `Timer.firings` lists what
of this lies within a stretch of time, and `Timer.resume` is the timer behind the stretch.
-/

namespace GridWalk

/-! ## The order of firings -/

namespace Firing

variable {first second third firing : Firing} {firings : List Firing}

theorem before_iff : first.before second = true ↔
    first.time.nanoseconds < second.time.nanoseconds ∨
      first.time.nanoseconds = second.time.nanoseconds ∧
        first.timer.value < second.timer.value := by
  simp [before]

theorem not_before_self (firing : Firing) : firing.before firing = false := by
  simp [before]

/-- What comes no earlier than a firing comes no earlier than what that firing follows. -/
theorem not_before_trans (second_not : second.before first = false)
    (third_not : third.before second = false) : third.before first = false := by
  rw [← Bool.not_eq_true, before_iff] at *
  omega

/-- Of two firings the one that does not come before the other is the other or follows it. -/
theorem eq_or_before_of_not_before (not_before : second.before first = false) :
    second = first ∨ first.before second = true := by
  obtain ⟨⟨first_time, first_le⟩, ⟨first_id⟩⟩ := first
  obtain ⟨⟨second_time, second_le⟩, ⟨second_id⟩⟩ := second
  rw [← Bool.not_eq_true, before_iff] at not_before
  simp only [before_iff, Firing.mk.injEq, Duration.mk.injEq, TimerId.mk.injEq] at *
  omega

theorem not_before_earlier (first second : Firing) :
    first.before (first.earlier second) = false ∧
      second.before (first.earlier second) = false := by
  cases order : second.before first with
  | false =>
      rw [earlier, order, if_neg Bool.false_ne_true]
      exact ⟨first.not_before_self, order⟩
  | true =>
      rw [earlier, order, if_pos rfl]
      refine ⟨?_, second.not_before_self⟩
      rw [← Bool.not_eq_true, before_iff]
      rw [before_iff] at order
      omega

theorem not_before_foldl_earlier (firing : Firing) (firings : List Firing) :
    ∀ other ∈ firing :: firings, other.before (firings.foldl earlier firing) = false := by
  induction firings generalizing firing with
  | nil =>
      intro other member
      rw [List.mem_singleton.mp member]
      exact firing.not_before_self
  | cons next firings induction =>
      intro other member
      have least := induction (firing.earlier next)
      have chosen := least _ List.mem_cons_self
      obtain ⟨firing_not, next_not⟩ := firing.not_before_earlier next
      rcases List.mem_cons.mp member with rfl | member
      · exact not_before_trans chosen firing_not
      · rcases List.mem_cons.mp member with rfl | member
        · exact not_before_trans chosen next_not
        · exact least other (List.mem_cons_of_mem _ member)

/-- Nothing in a list comes before its first firing. -/
theorem not_before_of_first? (found : first? firings = some firing) :
    ∀ other ∈ firings, other.before firing = false := by
  cases firings with
  | nil => cases found
  | cons head tail =>
      rw [first?, Option.some.injEq] at found
      rw [← found]
      exact not_before_foldl_earlier head tail

theorem first?_eq_none_iff : first? firings = none ↔ firings = [] := by
  cases firings <;> simp [first?]

end Firing

instance : Std.Irrefl fun first second : Firing => first.before second = true where
  irrefl firing := by simp [firing.not_before_self]

instance : Std.Antisymm fun first second : Firing => first.before second = true where
  antisymm first second before after := by
    rw [Firing.before_iff] at before after
    omega

/-! ## One timer -/

namespace Timer

variable {timer : Timer} {limit due : Duration} {firing other : Firing}

theorem period_pos (timer : Timer) : 0 < timer.period.nanoseconds := by
  have shortest_le := Duration.le_iff.mp timer.shortest_le
  have shortest_eq : shortestPeriod.nanoseconds = 1000000 := by decide
  omega

theorem due?_eq_some_iff : timer.due? limit = some firing ↔
    timer.nextDue = some firing.time ∧ firing.time ≤ limit ∧ firing.timer = timer.id := by
  obtain ⟨time, id⟩ := firing
  simp only [due?, Option.map_eq_some_iff, Option.filter_eq_some_iff, decide_eq_true_eq,
    Firing.mk.injEq]
  constructor
  · rintro ⟨_, ⟨pending, within⟩, rfl, rfl⟩
    exact ⟨pending, within, rfl⟩
  · rintro ⟨pending, within, rfl⟩
    exact ⟨time, ⟨pending, within⟩, rfl, rfl⟩

theorem due?_eq_none_iff :
    timer.due? limit = none ↔ ∀ due ∈ timer.nextDue, limit.nanoseconds < due.nanoseconds := by
  simp [due?, Option.filter_eq_none_iff, Duration.le_iff]

/-- The firing a number of periods behind an instant, if it lies within a limit. -/
def firingAt? (timer : Timer) (due limit : Duration) (periods : Nat) : Option Firing :=
  ((Duration.checked (due.nanoseconds + periods * timer.period.nanoseconds)).filter
    (· ≤ limit)).map (⟨·, timer.id⟩)

/-- The firings of a timer up to a limit, one every period from its next due instant on. No more of
them fit than the limit has nanoseconds. -/
def firings (timer : Timer) (limit : Duration) : List Firing :=
  match timer.nextDue with
  | none => []
  | some due => (List.range (limit.nanoseconds + 1)).filterMap (timer.firingAt? due limit)

theorem firingAt?_eq_some_iff {periods : Nat} :
    timer.firingAt? due limit periods = some firing ↔
      firing.time.nanoseconds = due.nanoseconds + periods * timer.period.nanoseconds ∧
        firing.time ≤ limit ∧ firing.timer = timer.id := by
  obtain ⟨time, id⟩ := firing
  simp only [firingAt?, Option.map_eq_some_iff, Option.filter_eq_some_iff, decide_eq_true_eq,
    Duration.checked_eq_some_iff, Firing.mk.injEq]
  constructor
  · rintro ⟨_, ⟨instant, within⟩, rfl, rfl⟩
    exact ⟨instant, within, rfl⟩
  · rintro ⟨instant, within, rfl⟩
    exact ⟨time, ⟨instant, within⟩, rfl, rfl⟩

theorem mem_firings : firing ∈ timer.firings limit ↔
    ∃ due, timer.nextDue = some due ∧ ∃ periods,
      firing.time.nanoseconds = due.nanoseconds + periods * timer.period.nanoseconds ∧
        firing.time ≤ limit ∧ firing.timer = timer.id := by
  rw [firings]
  cases pending : timer.nextDue with
  | none => simp
  | some due =>
      simp only [List.mem_filterMap, List.mem_range, firingAt?_eq_some_iff, Option.some.injEq,
        exists_eq_left']
      constructor
      · rintro ⟨periods, -, fires⟩
        exact ⟨periods, fires⟩
      · rintro ⟨periods, instant, within, same⟩
        refine ⟨periods, ?_, instant, within, same⟩
        have periods_le := Nat.le_mul_of_pos_right periods timer.period_pos
        have time_le := Duration.le_iff.mp within
        omega

/-- A timer fires in order. -/
theorem pairwise_firings (timer : Timer) (limit : Duration) :
    (timer.firings limit).Pairwise (fun first second => first.before second = true) := by
  rw [firings]
  cases timer.nextDue with
  | none => exact .nil
  | some due =>
      rw [List.pairwise_filterMap]
      refine List.pairwise_lt_range.imp ?_
      intro earlier later less first first_at second second_at
      obtain ⟨first_eq, -, -⟩ := firingAt?_eq_some_iff.mp first_at
      obtain ⟨second_eq, -, -⟩ := firingAt?_eq_some_iff.mp second_at
      have periods_lt := Nat.mul_lt_mul_of_pos_right less timer.period_pos
      exact Firing.before_iff.mpr (Or.inl (by omega))

/-- No firing of a timer comes before the one that is due next. -/
theorem not_before_of_due? (pending : timer.due? limit = some firing)
    (member : other ∈ timer.firings limit) : other.before firing = false := by
  obtain ⟨next, -, same⟩ := due?_eq_some_iff.mp pending
  obtain ⟨due, due_next, periods, instant, -, other_same⟩ := mem_firings.mp member
  obtain rfl : due = firing.time := Option.some.inj (due_next.symm.trans next)
  rw [← Bool.not_eq_true, Firing.before_iff, same, other_same]
  omega

theorem firings_of_due?_eq_none (nothing : timer.due? limit = none) :
    timer.firings limit = [] := by
  rw [List.eq_nil_iff_forall_not_mem]
  intro firing member
  obtain ⟨due, pending, periods, instant, within, -⟩ := mem_firings.mp member
  have beyond := due?_eq_none_iff.mp nothing due pending
  have time_le := Duration.le_iff.mp within
  omega

@[simp]
theorem id_advance (timer : Timer) : timer.advance.id = timer.id := rfl

@[simp]
theorem period_advance (timer : Timer) : timer.advance.period = timer.period := rfl

theorem nextDue_advance_eq_some_iff (next : timer.nextDue = some firing.time) :
    timer.advance.nextDue = some due ↔
      due.nanoseconds = firing.time.nanoseconds + timer.period.nanoseconds := by
  rw [advance, next]
  exact Duration.checked_eq_some_iff

theorem nextDue_advance_eq_none_iff (next : timer.nextDue = some firing.time) :
    timer.advance.nextDue = none ↔
      Duration.mostNanoseconds < firing.time.nanoseconds + timer.period.nanoseconds := by
  rw [advance, next]
  exact Duration.checked_eq_none_iff

/-- Behind a firing, a timer fires later only. -/
theorem before_of_mem_firings_advance (next : timer.nextDue = some firing.time)
    (member : other ∈ timer.advance.firings limit) : firing.before other = true := by
  obtain ⟨due, pending, periods, instant, -, -⟩ := mem_firings.mp member
  have due_eq := (nextDue_advance_eq_some_iff next).mp pending
  have period_pos := timer.period_pos
  exact Firing.before_iff.mpr (Or.inl (by omega))

theorem mem_firings_of_due? (pending : timer.due? limit = some firing) :
    other ∈ timer.firings limit ↔ other = firing ∨ other ∈ timer.advance.firings limit := by
  obtain ⟨next, within, same⟩ := due?_eq_some_iff.mp pending
  constructor
  · intro member
    obtain ⟨due, due_next, periods, instant, other_within, other_same⟩ := mem_firings.mp member
    obtain rfl : due = firing.time := Option.some.inj (due_next.symm.trans next)
    cases periods with
    | zero =>
        obtain ⟨other_time, _⟩ := other
        obtain ⟨time, _⟩ := firing
        simp only [Firing.mk.injEq, Duration.ext_iff] at *
        exact Or.inl ⟨by omega, by rw [same, other_same]⟩
    | succ periods =>
        have within_longest := other.time.nanoseconds_le
        rw [Nat.add_one_mul] at instant
        let following : Duration :=
          ⟨firing.time.nanoseconds + timer.period.nanoseconds, by omega⟩
        refine Or.inr (mem_firings.mpr ⟨following, ?_, periods, ?_, other_within, other_same⟩)
        · exact (nextDue_advance_eq_some_iff next).mpr rfl
        · change other.time.nanoseconds = firing.time.nanoseconds + timer.period.nanoseconds +
            periods * timer.period.nanoseconds
          omega
  · rintro (rfl | member)
    · exact mem_firings.mpr ⟨other.time, next, 0, by omega, within, same⟩
    · obtain ⟨due, due_next, periods, instant, other_within, other_same⟩ := mem_firings.mp member
      have due_eq := (nextDue_advance_eq_some_iff next).mp due_next
      refine mem_firings.mpr ⟨firing.time, next, periods + 1, ?_, other_within, other_same⟩
      rw [instant, due_eq, Nat.add_one_mul, period_advance]
      omega

/-- A timer that is due fires and then goes on as the timer behind that firing does. -/
theorem firings_of_due? (pending : timer.due? limit = some firing) :
    timer.firings limit = firing :: timer.advance.firings limit := by
  obtain ⟨next, -, -⟩ := due?_eq_some_iff.mp pending
  refine (timer.pairwise_firings limit).eq_of_mem_iff ?_ ?_
  · refine List.pairwise_cons.mpr ⟨?_, timer.advance.pairwise_firings limit⟩
    intro other member
    exact before_of_mem_firings_advance next member
  · intro other
    rw [List.mem_cons, mem_firings_of_due? pending]

/-! ## The timer behind a stretch of time -/

/-- The timer after it has fired all that is due by a limit. -/
def resume (timer : Timer) (limit : Duration) : Timer :=
  { timer with
    nextDue := timer.nextDue.bind fun due => Duration.checked
      (due.nanoseconds + (timer.firings limit).length * timer.period.nanoseconds) }

@[simp]
theorem id_resume (timer : Timer) (limit : Duration) : (timer.resume limit).id = timer.id := rfl

theorem resume_eq_iff {later : Timer} : timer.resume limit = later ↔
    timer.id = later.id ∧ timer.period = later.period ∧
      (timer.resume limit).nextDue = later.nextDue := by
  obtain ⟨_, _, _, _⟩ := later
  simp only [resume, Timer.mk.injEq]

theorem resume_of_due?_eq_none (nothing : timer.due? limit = none) :
    timer.resume limit = timer := by
  refine resume_eq_iff.mpr ⟨rfl, rfl, ?_⟩
  rw [resume, firings_of_due?_eq_none nothing]
  cases timer.nextDue with
  | none => rfl
  | some due =>
      refine Duration.checked_eq_some_iff.mpr ?_
      rw [List.length_nil, Nat.zero_mul, Nat.add_zero]

/-- A firing that is due within the stretch makes no difference to the timer behind it. -/
theorem resume_advance (pending : timer.due? limit = some firing) :
    timer.advance.resume limit = timer.resume limit := by
  obtain ⟨next, -, -⟩ := due?_eq_some_iff.mp pending
  refine resume_eq_iff.mpr ⟨rfl, rfl, ?_⟩
  simp only [resume, next, Option.bind_some, firings_of_due? pending, List.length_cons,
    Nat.add_one_mul, period_advance]
  ext due
  simp only [Option.bind_eq_some_iff, Duration.checked_eq_some_iff,
    nextDue_advance_eq_some_iff next]
  constructor
  · rintro ⟨following, following_eq, due_eq⟩
    omega
  · intro due_eq
    have within := due.nanoseconds_le
    refine ⟨⟨firing.time.nanoseconds + timer.period.nanoseconds, by omega⟩, rfl, ?_⟩
    simp only [due_eq]
    omega

/-- How a timer goes on behind a stretch of time: it is next due at the first of its instants beyond
the limit, unless no duration can hold that one. -/
structure Resumes (limit : Duration) (timer later : Timer) : Prop where
  id_eq : later.id = timer.id
  period_eq : later.period = timer.period
  /-- A timer that is silent stays so. -/
  silent : timer.nextDue = none → later.nextDue = none
  /-- The first instant beyond the limit comes next. -/
  due : ∀ due, timer.nextDue = some due → ∃ instant,
    IsLeast { instant | limit.nanoseconds < instant ∧
      ∃ periods, instant = due.nanoseconds + periods * timer.period.nanoseconds } instant ∧
    later.nextDue = Duration.checked instant

/-- The instants of a timer within a limit are its first ones. -/
theorem lt_length_firings_iff {timer : Timer} {limit due : Duration}
    (pending : timer.nextDue = some due) (periods : Nat) :
    periods < (timer.firings limit).length ↔
      due.nanoseconds + periods * timer.period.nanoseconds ≤ limit.nanoseconds := by
  cases within : timer.due? limit with
  | none =>
      have beyond := due?_eq_none_iff.mp within due pending
      rw [firings_of_due?_eq_none within, List.length_nil]
      omega
  | some firing =>
      obtain ⟨next, time_le, -⟩ := due?_eq_some_iff.mp within
      obtain rfl : due = firing.time := Option.some.inj (pending.symm.trans next)
      have first_le := Duration.le_iff.mp time_le
      rw [firings_of_due? within, List.length_cons]
      cases periods with
      | zero => omega
      | succ periods =>
          rw [Nat.add_one_mul, Nat.add_lt_add_iff_right]
          cases later : timer.advance.nextDue with
          | none =>
              -- The second instant is beyond the greatest duration, and so beyond the limit.
              have silent : timer.advance.due? limit = none :=
                due?_eq_none_iff.mpr (by simp [later])
              have beyond := (nextDue_advance_eq_none_iff next).mp later
              have limit_le := limit.nanoseconds_le
              rw [firings_of_due?_eq_none silent, List.length_nil]
              omega
          | some following =>
              have following_eq := (nextDue_advance_eq_some_iff next).mp later
              rw [lt_length_firings_iff later, period_advance, following_eq]
              omega

theorem resumes_resume (timer : Timer) (limit : Duration) :
    timer.Resumes limit (timer.resume limit) := by
  refine ⟨rfl, rfl, ?_, ?_⟩
  · intro silent
    rw [resume, silent]
    rfl
  · intro due pending
    refine ⟨due.nanoseconds + (timer.firings limit).length * timer.period.nanoseconds,
      ⟨⟨?_, _, rfl⟩, ?_⟩, ?_⟩
    · exact Nat.lt_of_not_le (mt (lt_length_firings_iff pending _).mpr (Nat.lt_irrefl _))
    · rintro instant ⟨beyond, periods, rfl⟩
      have length_le := Nat.le_of_not_lt
        (mt (lt_length_firings_iff pending _).mp (Nat.not_le_of_lt beyond))
      have scaled := Nat.mul_le_mul_right timer.period.nanoseconds length_le
      omega
    · rw [resume, pending, Option.bind_some]

end Timer

end GridWalk
