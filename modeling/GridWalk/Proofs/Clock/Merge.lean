import GridWalk.Proofs.Clock.Firings
import Mathlib.Data.List.Nodup
import Mathlib.Data.List.Perm.Basic

/-!
# Time as a merge of timers

A clock fires its timers one after another, each time the one whose firing comes first. As handles
are never handed out twice, a firing concerns a single timer, and moving time forward brings
together what each timer would fire on its own: nothing is lost, nothing comes twice and all is in
order.
-/

namespace GridWalk

namespace VirtualClock

variable {clock later : VirtualClock} {limit : Duration} {firing other : Firing} {timer : Timer}

/-! ## Clocks that may come up -/

/-- Something that a clock may be told to do. -/
inductive Operation where
  | schedule (period : Duration)
  | cancel (id : TimerId)
  /-- Lets the first timer that is due by a limit fire. -/
  | popDue (limit : Duration)
  /-- Moves time forward to an instant. -/
  | advanceTo (limit : Duration)
  /-- Moves time forward by a span. -/
  | advance (span : Duration)
  /-- Moves time forward to the next firing. -/
  | advanceToNext
  deriving DecidableEq

/-- The clock after an operation. -/
def perform (clock : VirtualClock) : Operation → VirtualClock
  | .schedule period => (clock.schedule period).2
  | .cancel id => clock.cancel id
  | .popDue limit => (clock.popDue? limit).elim clock Prod.snd
  | .advanceTo limit => (clock.advanceTo limit).2
  | .advance span => (clock.advance span).2
  | .advanceToNext => clock.advanceToNext.2

/-- The clock after several operations. -/
def performAll (clock : VirtualClock) (operations : List Operation) : VirtualClock :=
  operations.foldl perform clock

/-- The handles of the timers that are not cancelled. -/
def handles (clock : VirtualClock) : List TimerId := clock.timers.map Timer.id

/-- Every handle belongs to one timer and was handed out before the next one. -/
structure Sound (clock : VirtualClock) : Prop where
  nodup : clock.handles.Nodup
  /-- The next handle is greater than all handles in use. -/
  lt_nextId : ∀ id ∈ clock.handles, id.value < clock.nextId

theorem Sound.of_handles_eq (sound : clock.Sound) (handles_eq : later.handles = clock.handles)
    (nextId_eq : later.nextId = clock.nextId) : later.Sound := by
  refine ⟨handles_eq ▸ sound.nodup, ?_⟩
  rw [handles_eq, nextId_eq]
  exact sound.lt_nextId

/-! ## A single firing -/

theorem popDue?_eq_none_iff :
    clock.popDue? limit = none ↔ ∀ timer ∈ clock.timers, timer.due? limit = none := by
  rw [popDue?, Option.map_eq_none_iff, nextFiring?, Firing.first?_eq_none_iff,
    List.filterMap_eq_nil_iff]

/-- What it means that a firing was popped: it is due, nothing that is due comes before it, and its
timer goes on. -/
structure Pops (clock : VirtualClock) (limit : Duration) (firing : Firing)
    (later : VirtualClock) : Prop where
  /-- Some timer is due with the firing. -/
  due : ∃ timer ∈ clock.timers, timer.due? limit = some firing
  /-- Nothing that is due comes before the firing. -/
  least : ∀ timer ∈ clock.timers, ∀ other, timer.due? limit = some other →
    other.before firing = false
  later_eq : later = clock.fire firing

theorem pops_of_popDue? (popped : clock.popDue? limit = some (firing, later)) :
    clock.Pops limit firing later := by
  simp only [popDue?, Option.map_eq_some_iff, Prod.mk.injEq] at popped
  obtain ⟨_, found, rfl, rfl⟩ := popped
  refine ⟨List.mem_filterMap.mp (Firing.mem_of_first? found), ?_, rfl⟩
  intro timer member other due
  exact Firing.not_before_of_first? found other (List.mem_filterMap.mpr ⟨timer, member, due⟩)

theorem handles_fire (clock : VirtualClock) (firing : Firing) :
    (clock.fire firing).handles = clock.handles := by
  simp only [handles, fire, List.map_map, List.map_inj_left, Function.comp_apply]
  intro timer member
  split <;> rfl

theorem handles_cancel_sublist (clock : VirtualClock) (id : TimerId) :
    (clock.cancel id).handles.Sublist clock.handles :=
  List.filter_sublist.map Timer.id

theorem mem_timers_fire : timer ∈ (clock.fire firing).timers ↔ ∃ before ∈ clock.timers,
    (if before.id = firing.timer then before.advance else before) = timer :=
  List.mem_map

namespace Pops

theorem nodup_handles (pops : clock.Pops limit firing later) (nodup : clock.handles.Nodup) :
    later.handles.Nodup := by
  rwa [pops.later_eq, handles_fire]

/-- The timer with the handle of the firing is the one that fires. -/
theorem due?_of_id_eq (pops : clock.Pops limit firing later) (nodup : clock.handles.Nodup)
    (member : timer ∈ clock.timers) (same : timer.id = firing.timer) :
    timer.due? limit = some firing := by
  obtain ⟨fired, fired_member, due⟩ := pops.due
  obtain ⟨-, -, fired_id⟩ := Timer.due?_eq_some_iff.mp due
  obtain rfl := List.inj_on_of_nodup_map nodup member fired_member (same.trans fired_id)
  exact due

/-- Everything that is still to fire comes after the firing that was popped. -/
theorem before_of_mem_firings (pops : clock.Pops limit firing later)
    (nodup : clock.handles.Nodup) (member : timer ∈ later.timers)
    (fires : other ∈ timer.firings limit) : firing.before other = true := by
  rw [pops.later_eq] at member
  obtain ⟨before, before_member, rfl⟩ := mem_timers_fire.mp member
  -- The timer that fired is past the firing; any other had nothing due before it.
  by_cases same : before.id = firing.timer
  · obtain ⟨next, -, -⟩ := Timer.due?_eq_some_iff.mp (pops.due?_of_id_eq nodup before_member same)
    rw [if_pos same] at fires
    exact Timer.before_of_mem_firings_advance next fires
  · rw [if_neg same] at fires
    cases pending : before.due? limit with
    | none =>
        rw [Timer.firings_of_due?_eq_none pending] at fires
        cases fires
    | some next =>
        have not_before := Firing.not_before_trans (pops.least before before_member next pending)
          (Timer.not_before_of_due? pending fires)
        rcases Firing.eq_or_before_of_not_before not_before with rfl | firing_before
        · obtain ⟨_, -, _, -, -, id_eq⟩ := Timer.mem_firings.mp fires
          exact absurd id_eq.symm same
        · exact firing_before

theorem mem_firings_iff (pops : clock.Pops limit firing later) (nodup : clock.handles.Nodup) :
    (∃ timer ∈ clock.timers, other ∈ timer.firings limit) ↔
      other = firing ∨ ∃ timer ∈ later.timers, other ∈ timer.firings limit := by
  rw [pops.later_eq]
  constructor
  · rintro ⟨timer, member, fires⟩
    have goes_on : _ ∈ (clock.fire firing).timers := mem_timers_fire.mpr ⟨timer, member, rfl⟩
    by_cases same : timer.id = firing.timer
    · rw [if_pos same] at goes_on
      rcases (Timer.mem_firings_of_due? (pops.due?_of_id_eq nodup member same)).mp fires with
        equal | fires
      · exact Or.inl equal
      · exact Or.inr ⟨timer.advance, goes_on, fires⟩
    · rw [if_neg same] at goes_on
      exact Or.inr ⟨timer, goes_on, fires⟩
  · rintro (rfl | ⟨timer, member, fires⟩)
    · obtain ⟨timer, member, due⟩ := pops.due
      exact ⟨timer, member, (Timer.mem_firings_of_due? due).mpr (Or.inl rfl)⟩
    · obtain ⟨before, before_member, rfl⟩ := mem_timers_fire.mp member
      refine ⟨before, before_member, ?_⟩
      by_cases same : before.id = firing.timer
      · rw [if_pos same] at fires
        have due := pops.due?_of_id_eq nodup before_member same
        exact (Timer.mem_firings_of_due? due).mpr (Or.inr fires)
      · rwa [if_neg same] at fires

/-- The firing makes no difference to the timers behind the stretch of time. -/
theorem map_resume_eq (pops : clock.Pops limit firing later) (nodup : clock.handles.Nodup) :
    later.timers.map (·.resume limit) = clock.timers.map (·.resume limit) := by
  rw [pops.later_eq, fire, List.map_map, List.map_inj_left]
  intro timer member
  rw [Function.comp_apply]
  split
  · rename_i same
    exact Timer.resume_advance (pops.due?_of_id_eq nodup member same)
  · rfl

theorem time_le (pops : clock.Pops limit firing later) : firing.time ≤ limit := by
  obtain ⟨timer, -, due⟩ := pops.due
  exact (Timer.due?_eq_some_iff.mp due).2.1

end Pops

/-! ## A stretch of time -/

/-- Where nothing is due, only time goes on. -/
theorem advanceTo_of_popDue?_eq_none (nothing : clock.popDue? limit = none) :
    clock.advanceTo limit = ([], clock.moveTo limit) := by
  rw [advanceTo]
  split
  · rfl
  · rename_i popped
    rw [popped] at nothing
    cases nothing

/-- The clock behind a stretch of time. -/
theorem clock_advanceTo (nodup : clock.handles.Nodup) (limit : Duration) :
    (clock.advanceTo limit).2 =
      { clock with
        now := max clock.now limit
        timers := clock.timers.map (·.resume limit) } := by
  fun_induction advanceTo clock limit with
  | case1 clock nothing =>
      have silent := popDue?_eq_none_iff.mp nothing
      have same : clock.timers.map (·.resume limit) = clock.timers := by
        rw [List.map_congr_left fun timer member =>
          Timer.resume_of_due?_eq_none (silent timer member), List.map_id']
      rw [same]
      rfl
  | case2 clock firing later popped rest final advanced induction =>
      have pops := pops_of_popDue? popped
      have later_nodup := pops.nodup_handles nodup
      have final_eq := induction later_nodup
      rw [advanced] at final_eq
      have time_le := Duration.le_iff.mp pops.time_le
      have now_eq : max later.now limit = max clock.now limit := by
        rw [pops.later_eq, fire, Duration.ext_iff]
        simp only [Duration.nanoseconds_max]
        omega
      rw [final_eq, pops.map_resume_eq nodup, now_eq, pops.later_eq]
      rfl

theorem mem_advanceTo_iff (nodup : clock.handles.Nodup) (limit : Duration) :
    other ∈ (clock.advanceTo limit).1 ↔ ∃ timer ∈ clock.timers, other ∈ timer.firings limit := by
  fun_induction advanceTo clock limit with
  | case1 clock nothing =>
      have silent := popDue?_eq_none_iff.mp nothing
      constructor
      · intro member
        cases member
      · rintro ⟨timer, member, fires⟩
        rw [Timer.firings_of_due?_eq_none (silent timer member)] at fires
        cases fires
  | case2 clock firing later popped rest final advanced induction =>
      have pops := pops_of_popDue? popped
      have later_nodup := pops.nodup_handles nodup
      have rest_iff := induction later_nodup
      rw [advanced] at rest_iff
      rw [pops.mem_firings_iff nodup, List.mem_cons, rest_iff]

theorem pairwise_advanceTo (nodup : clock.handles.Nodup) (limit : Duration) :
    (clock.advanceTo limit).1.Pairwise (fun first second => first.before second = true) := by
  fun_induction advanceTo clock limit with
  | case1 clock nothing => exact .nil
  | case2 clock firing later popped rest final advanced induction =>
      have pops := pops_of_popDue? popped
      have later_nodup := pops.nodup_handles nodup
      have ordered := induction later_nodup
      have rest_eq : (later.advanceTo limit).1 = rest := by rw [advanced]
      rw [rest_eq] at ordered
      refine List.pairwise_cons.mpr ⟨?_, ordered⟩
      -- What comes behind the first firing is a firing of a timer of the clock after it.
      intro other member
      rw [← rest_eq] at member
      obtain ⟨timer, timer_member, fires⟩ := (mem_advanceTo_iff later_nodup limit).mp member
      exact pops.before_of_mem_firings nodup timer_member fires

theorem nodup_flatMap_firings (nodup : clock.handles.Nodup) (limit : Duration) :
    (clock.timers.flatMap (·.firings limit)).Nodup := by
  refine List.nodup_flatMap.mpr ⟨fun timer _ => (timer.pairwise_firings limit).nodup, ?_⟩
  refine (List.pairwise_map.mp nodup).imp ?_
  intro first second differ firing first_fires second_fires
  obtain ⟨_, -, _, -, -, first_id⟩ := Timer.mem_firings.mp first_fires
  obtain ⟨_, -, _, -, -, second_id⟩ := Timer.mem_firings.mp second_fires
  exact differ (first_id.symm.trans second_id)

theorem perm_advanceTo (nodup : clock.handles.Nodup) (limit : Duration) :
    (clock.advanceTo limit).1.Perm (clock.timers.flatMap (·.firings limit)) := by
  have fired_nodup := (pairwise_advanceTo nodup limit).nodup
  refine (List.perm_ext_iff_of_nodup fired_nodup (nodup_flatMap_firings nodup limit)).mpr ?_
  intro firing
  rw [mem_advanceTo_iff nodup, List.mem_flatMap]

/-! ## All operations together -/

theorem handles_advanceTo (nodup : clock.handles.Nodup) (limit : Duration) :
    (clock.advanceTo limit).2.handles = clock.handles := by
  rw [clock_advanceTo nodup, handles, List.map_map]
  rfl

theorem sound_advanceTo (sound : clock.Sound) (limit : Duration) :
    (clock.advanceTo limit).2.Sound := by
  refine sound.of_handles_eq (handles_advanceTo sound.nodup limit) ?_
  rw [clock_advanceTo sound.nodup]

theorem sound_perform (sound : clock.Sound) (operation : Operation) :
    (clock.perform operation).Sound := by
  cases operation with
  | schedule period =>
      have handles_eq : (clock.schedule period).2.handles = clock.handles ++ [⟨clock.nextId⟩] :=
        List.map_append
      have fresh : ⟨clock.nextId⟩ ∉ clock.handles := by
        intro member
        exact Nat.lt_irrefl _ (sound.lt_nextId _ member)
      refine ⟨?_, ?_⟩
      · rw [perform, handles_eq, ← List.concat_eq_append]
        exact sound.nodup.concat fresh
      · intro id member
        rw [perform, handles_eq] at member
        rcases List.mem_append.mp member with old | new
        · exact Nat.lt_succ_of_lt (sound.lt_nextId id old)
        · rw [List.mem_singleton.mp new]
          exact Nat.lt_succ_self _
  | cancel id =>
      have kept := clock.handles_cancel_sublist id
      exact ⟨sound.nodup.sublist kept,
        fun other member => sound.lt_nextId other (kept.subset member)⟩
  | popDue limit =>
      rw [perform]
      cases popped : clock.popDue? limit with
      | none => exact sound
      | some pair =>
          obtain ⟨firing, later⟩ := pair
          have pops := pops_of_popDue? popped
          refine sound.of_handles_eq ?_ ?_
          · rw [Option.elim_some, pops.later_eq, handles_fire]
          · rw [Option.elim_some, pops.later_eq]
            rfl
  | advanceTo limit => exact sound_advanceTo sound limit
  | advance span => exact sound_advanceTo sound _
  | advanceToNext =>
      rw [perform, advanceToNext]
      split
      · exact sound_advanceTo sound _
      · exact sound

theorem sound_performAll (sound : clock.Sound) (operations : List Operation) :
    (clock.performAll operations).Sound := by
  induction operations generalizing clock with
  | nil => exact sound
  | cons operation operations induction => exact induction (sound_perform sound operation)

theorem sound_initial : initial.Sound :=
  ⟨List.nodup_nil, by simp [handles, initial]⟩

/-! ## Numbers of handles -/

theorem nextId_advanceTo (clock : VirtualClock) (limit : Duration) :
    (clock.advanceTo limit).2.nextId = clock.nextId := by
  fun_induction advanceTo clock limit with
  | case1 clock nothing => rfl
  | case2 clock firing later popped rest final advanced induction =>
      rw [advanced] at induction
      rw [induction, (pops_of_popDue? popped).later_eq]
      rfl

/-- The number of the next handle never falls, so no handle is handed out twice. -/
theorem nextId_le_perform (clock : VirtualClock) (operation : Operation) :
    clock.nextId ≤ (clock.perform operation).nextId := by
  cases operation with
  | schedule period => exact Nat.le_succ clock.nextId
  | cancel id => exact Nat.le_refl clock.nextId
  | popDue limit =>
      rw [perform]
      cases popped : clock.popDue? limit with
      | none => exact Nat.le_refl clock.nextId
      | some pair =>
          have later_eq := (pops_of_popDue? popped).later_eq
          rw [Option.elim_some, later_eq]
          exact Nat.le_refl clock.nextId
  | advanceTo limit => exact (clock.nextId_advanceTo limit).ge
  | advance span => exact (clock.nextId_advanceTo _).ge
  | advanceToNext =>
      rw [perform, advanceToNext]
      split
      · exact (clock.nextId_advanceTo _).ge
      · exact Nat.le_refl clock.nextId

/-! ## The merge -/

/-- Moving time forward fires exactly what the timers fire by the limit on their own, ordered by
time and then by handle. Each timer is then next due at its first instant beyond the limit. -/
theorem advanceTo_merges_timers (operations : List Operation) (limit : Duration) :
    let clock := initial.performAll operations
    let firings := (clock.advanceTo limit).1
    let later := (clock.advanceTo limit).2
    firings.Perm (clock.timers.flatMap (·.firings limit)) ∧
      firings.Pairwise (fun first second => first.before second = true) ∧
      List.Forall₂ (Timer.Resumes limit) clock.timers later.timers ∧
      later.now = max clock.now limit ∧ later.nextId = clock.nextId := by
  intro clock firings later
  have nodup : clock.handles.Nodup := (sound_performAll sound_initial operations).nodup
  have later_eq : later = _ := clock_advanceTo nodup limit
  refine ⟨perm_advanceTo nodup limit, pairwise_advanceTo nodup limit, ?_, ?_, ?_⟩
  · rw [later_eq, List.forall₂_map_right_iff, List.forall₂_same]
    intro timer _
    exact timer.resumes_resume limit
  · rw [later_eq]
  · rw [later_eq]

example :
    (((initial.performAll
      [.schedule (.ofMilliseconds 100), .schedule (.ofMilliseconds 40)]).advanceTo
        (.ofMilliseconds 200)).1.map (·.timer.value)) = [1, 1, 0, 1, 1, 0, 1] := by
  decide +kernel

end VirtualClock

end GridWalk
