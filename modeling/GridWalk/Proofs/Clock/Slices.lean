import GridWalk.Proofs.Clock.Merge

/-!
# Time in slices

A stretch of time may pass at once or in slices: firing by firing, from one firing to the next, up
to an instant or for a span, in any order. The main statement says that this makes no difference. A
slice fires what comes first of the stretch and leaves the rest to the slices behind it, so every
way to cut the stretch fires the same and ends with the same clock.
-/

namespace GridWalk

/-- Saturation comes to the same however the summands are grouped. -/
theorem Duration.saturatingAdd_assoc (first second third : Duration) :
    (first.saturatingAdd second).saturatingAdd third =
      first.saturatingAdd (second.saturatingAdd third) := by
  simp only [saturatingAdd, Duration.ext_iff, nanoseconds_saturating]
  omega

namespace VirtualClock

variable {clock later : VirtualClock} {limit instant first : Duration} {firing : Firing}

/-- A way to let time pass. -/
inductive Slice where
  /-- The first firing that is due by a limit. -/
  | popDue (limit : Duration)
  | advanceTo (limit : Duration)
  | advance (span : Duration)
  /-- All that fires at the next instant at which anything does. -/
  | advanceToNext
  deriving DecidableEq

/-- What fires in a slice of time, and the clock behind it. -/
def pass (clock : VirtualClock) : Slice → List Firing × VirtualClock
  | .popDue limit =>
      match clock.popDue? limit with
      | none => ([], clock)
      | some (firing, later) => ([firing], later)
  | .advanceTo limit => clock.advanceTo limit
  | .advance span => clock.advance span
  | .advanceToNext => clock.advanceToNext

/-- What fires in several slices of time, and the clock behind them. -/
def passAll (clock : VirtualClock) : List Slice → List Firing × VirtualClock
  | [] => ([], clock)
  | slice :: slices =>
      let (firings, later) := clock.pass slice
      let (rest, final) := later.passAll slices
      (firings ++ rest, final)

theorem passAll_cons (clock : VirtualClock) (slice : Slice) (slices : List Slice) :
    clock.passAll (slice :: slices) =
      ((clock.pass slice).1 ++ ((clock.pass slice).2.passAll slices).1,
        ((clock.pass slice).2.passAll slices).2) :=
  rfl

theorem passAll_singleton (clock : VirtualClock) (slice : Slice) :
    clock.passAll [slice] = clock.pass slice := by
  rw [passAll_cons, passAll, List.append_nil]

/-! ## Where a slice ends -/

theorem now_moveTo (clock : VirtualClock) (instant : Duration) :
    (clock.moveTo instant).now.nanoseconds = max clock.now.nanoseconds instant.nanoseconds :=
  Duration.nanoseconds_max _ _

theorem now_of_popDue? (popped : clock.popDue? limit = some (firing, later)) :
    later.now.nanoseconds = max clock.now.nanoseconds firing.time.nanoseconds := by
  rw [(pops_of_popDue? popped).later_eq]
  exact Duration.nanoseconds_max _ _

theorem advanceTo_of_popDue?_eq_some (popped : clock.popDue? limit = some (firing, later)) :
    clock.advanceTo limit = (firing :: (later.advanceTo limit).1, (later.advanceTo limit).2) := by
  rw [advanceTo]
  split
  · rename_i nothing
    rw [popped] at nothing
    cases nothing
  · rename_i again
    obtain ⟨rfl, rfl⟩ := Prod.mk.inj (Option.some.inj (popped.symm.trans again))
    rfl

theorem now_advanceTo (clock : VirtualClock) (limit : Duration) :
    (clock.advanceTo limit).2.now.nanoseconds =
      max clock.now.nanoseconds limit.nanoseconds := by
  fun_induction advanceTo clock limit with
  | case1 clock nothing => exact clock.now_moveTo limit
  | case2 clock firing later popped rest final advanced induction =>
      rw [advanced, now_of_popDue? popped] at induction
      have time_le := Duration.le_iff.mp (pops_of_popDue? popped).time_le
      rw [induction]
      omega

theorem now_le_advanceTo (clock : VirtualClock) (limit : Duration) :
    clock.now ≤ (clock.advanceTo limit).2.now := by
  rw [Duration.le_iff, now_advanceTo]
  exact Nat.le_max_left _ _

/-- Time never goes back. -/
theorem now_le_pass (clock : VirtualClock) (slice : Slice) :
    clock.now ≤ (clock.pass slice).2.now := by
  cases slice with
  | popDue limit =>
      rw [pass]
      cases popped : clock.popDue? limit with
      | none => exact Nat.le_refl _
      | some pair =>
          rw [Duration.le_iff, now_of_popDue? popped]
          exact Nat.le_max_left _ _
  | advanceTo limit => exact clock.now_le_advanceTo limit
  | advance span => exact clock.now_le_advanceTo _
  | advanceToNext =>
      rw [pass, advanceToNext]
      split
      · exact clock.now_le_advanceTo _
      · exact Nat.le_refl _

theorem now_le_passAll (clock : VirtualClock) (slices : List Slice) :
    clock.now ≤ (clock.passAll slices).2.now := by
  induction slices generalizing clock with
  | nil => exact Nat.le_refl _
  | cons slice slices induction =>
      rw [passAll_cons]
      exact Nat.le_trans (clock.now_le_pass slice) (induction (clock.pass slice).2)

/-! ## What a slice leaves to the next one -/

/-- The firing that comes first does so for every limit by which it is due. -/
theorem popDue?_of_time_le (popped : clock.popDue? first = some (firing, later))
    (time_le : firing.time ≤ limit) : clock.popDue? limit = some (firing, later) := by
  have pops := pops_of_popDue? popped
  obtain ⟨timer, member, due⟩ := pops.due
  obtain ⟨next, -, same⟩ := Timer.due?_eq_some_iff.mp due
  have due_by_limit : timer.due? limit = some firing :=
    Timer.due?_eq_some_iff.mpr ⟨next, time_le, same⟩
  cases found : clock.popDue? limit with
  | none =>
      rw [popDue?_eq_none_iff.mp found timer member] at due_by_limit
      cases due_by_limit
  | some pair =>
      obtain ⟨other, behind⟩ := pair
      have other_pops := pops_of_popDue? found
      obtain ⟨otherTimer, other_member, other_due⟩ := other_pops.due
      obtain ⟨other_next, -, other_same⟩ := Timer.due?_eq_some_iff.mp other_due
      have firing_not := other_pops.least timer member firing due_by_limit
      -- What comes before the first firing is due by the first limit as well.
      have other_le : other.time ≤ first := by
        have first_le := Duration.le_iff.mp pops.time_le
        have not_before := mt Firing.before_iff.mpr (Bool.not_eq_true _ ▸ firing_not)
        rw [Duration.le_iff]
        omega
      have other_not := pops.least otherTimer other_member other
        (Timer.due?_eq_some_iff.mpr ⟨other_next, other_le, other_same⟩)
      rcases Firing.eq_or_before_of_not_before other_not with rfl | before
      · rw [pops.later_eq, other_pops.later_eq]
      · rw [firing_not] at before
        cases before

theorem popDue?_moveTo (clock : VirtualClock) (instant limit : Duration) :
    (clock.moveTo instant).popDue? limit =
      (clock.popDue? limit).map fun (firing, later) => (firing, later.moveTo instant) := by
  have fire_eq (firing : Firing) :
      (clock.moveTo instant).fire firing = (clock.fire firing).moveTo instant := by
    simp only [fire, moveTo, mk.injEq, Duration.ext_iff, Duration.nanoseconds_max, and_true]
    omega
  have next_eq : (clock.moveTo instant).nextFiring? limit = clock.nextFiring? limit := rfl
  simp only [popDue?, Option.map_map, next_eq, fire_eq]
  rfl

/-- What fires by a limit does not depend on how far time has moved on before. -/
theorem advanceTo_moveTo (within : instant ≤ limit) :
    (clock.moveTo instant).advanceTo limit = clock.advanceTo limit := by
  have within := Duration.le_iff.mp within
  fun_induction advanceTo clock limit with
  | case1 clock nothing =>
      have still_nothing : (clock.moveTo instant).popDue? limit = none := by
        rw [popDue?_moveTo, nothing, Option.map_none]
      have moved : (clock.moveTo instant).moveTo limit = clock.moveTo limit := by
        simp only [moveTo, mk.injEq, Duration.ext_iff, Duration.nanoseconds_max, and_true]
        omega
      rw [advanceTo_of_popDue?_eq_none still_nothing, moved]
  | case2 clock firing later popped rest final advanced induction =>
      have still_popped :
          (clock.moveTo instant).popDue? limit = some (firing, later.moveTo instant) := by
        rw [popDue?_moveTo, popped, Option.map_some]
      rw [advanceTo_of_popDue?_eq_some still_popped, induction, advanced]

/-- A stretch of time may be interrupted at any instant. -/
theorem advanceTo_advanceTo (within : first ≤ limit) :
    ((clock.advanceTo first).1 ++ ((clock.advanceTo first).2.advanceTo limit).1,
      ((clock.advanceTo first).2.advanceTo limit).2) = clock.advanceTo limit := by
  fun_induction advanceTo clock first with
  | case1 clock nothing => rw [advanceTo_moveTo within, List.nil_append]
  | case2 clock firing later popped rest final advanced induction =>
      have time_le : firing.time ≤ limit := Nat.le_trans (pops_of_popDue? popped).time_le within
      rw [advanced] at induction
      rw [advanceTo_of_popDue?_eq_some (popDue?_of_time_le popped time_le), ← induction,
        List.cons_append]

/-- A slice that ends by the limit leaves to the rest of the stretch what it does not fire. -/
theorem passAll_slice_advanceTo {slice : Slice} (within : (clock.pass slice).2.now ≤ limit) :
    clock.passAll [slice, .advanceTo limit] = clock.advanceTo limit := by
  rw [passAll_cons, passAll_singleton, pass]
  rw [Duration.le_iff] at within
  -- An advance to an instant does not end before that instant.
  have of_advanceTo (first : Duration)
      (ends : (clock.advanceTo first).2.now.nanoseconds ≤ limit.nanoseconds) :
      ((clock.advanceTo first).1 ++ ((clock.advanceTo first).2.advanceTo limit).1,
        ((clock.advanceTo first).2.advanceTo limit).2) = clock.advanceTo limit := by
    rw [now_advanceTo] at ends
    exact advanceTo_advanceTo (Duration.le_iff.mpr (by omega))
  cases slice with
  | popDue last =>
      rw [pass] at within ⊢
      cases popped : clock.popDue? last with
      | none => rw [List.nil_append]
      | some pair =>
          obtain ⟨firing, later⟩ := pair
          simp only [popped, now_of_popDue? popped] at within
          have time_le : firing.time ≤ limit := Duration.le_iff.mpr (by omega)
          rw [advanceTo_of_popDue?_eq_some (popDue?_of_time_le popped time_le)]
          rfl
  | advanceTo first => exact of_advanceTo first within
  | advance span => exact of_advanceTo _ within
  | advanceToNext =>
      rw [pass, advanceToNext] at within ⊢
      cases next : clock.nextInstant? with
      | none => rw [List.nil_append]
      | some instant =>
          rw [next] at within
          exact of_advanceTo instant within

/-! ## All slices together -/

theorem passAll_append_advanceTo {slices : List Slice}
    (within : (clock.passAll slices).2.now ≤ limit) :
    clock.passAll (slices ++ [.advanceTo limit]) = clock.advanceTo limit := by
  induction slices generalizing clock with
  | nil => exact clock.passAll_singleton (.advanceTo limit)
  | cons slice slices induction =>
      rw [passAll_cons] at within
      have first_within := Nat.le_trans (now_le_passAll _ slices) within
      rw [List.cons_append, passAll_cons, induction within,
        ← passAll_slice_advanceTo first_within, passAll_cons, passAll_singleton, pass]

theorem passAll_advance_advance (clock : VirtualClock) (first second : Duration) :
    clock.passAll [.advance first, .advance second] =
      clock.advance (first.saturatingAdd second) := by
  have now_eq : (clock.advance first).2.now = clock.now.saturatingAdd first := by
    have now_le := clock.now.nanoseconds_le
    rw [advance, Duration.ext_iff, now_advanceTo]
    simp only [Duration.saturatingAdd, Duration.nanoseconds_saturating]
    omega
  have within : clock.now.saturatingAdd first ≤
      clock.now.saturatingAdd (first.saturatingAdd second) := by
    rw [Duration.le_iff]
    simp only [Duration.saturatingAdd, Duration.nanoseconds_saturating]
    omega
  have onward : (clock.advance first).2.advance second = (clock.advance first).2.advanceTo
      (clock.now.saturatingAdd (first.saturatingAdd second)) := by
    rw [← Duration.saturatingAdd_assoc, ← now_eq]
    rfl
  rw [passAll_cons, passAll_singleton, pass, pass, onward]
  exact advanceTo_advanceTo within

/-- However a stretch of time is cut into slices, the same fires in the same order as when it passes
at once, and the clock is the same behind it. -/
theorem slices_fire_as_stretch (clock : VirtualClock) (slices : List Slice) (limit : Duration)
    (within : (clock.passAll slices).2.now ≤ limit) :
    clock.passAll (slices ++ [.advanceTo limit]) = clock.advanceTo limit ∧
      ∀ first second, clock.passAll [.advance first, .advance second] =
        clock.advance (first.saturatingAdd second) :=
  ⟨passAll_append_advanceTo within, clock.passAll_advance_advance⟩

/-- Two timers fire together at 60 milliseconds. One slice ends between these two firings, one asks
for an instant that is past, and one jumps to the next firing. -/
theorem slices_fire_between_firings :
    let clock := initial.performAll
      [.schedule (.ofMilliseconds 30), .schedule (.ofMilliseconds 20)]
    let limit := Duration.ofMilliseconds 130
    let slices : List Slice :=
      [.advance (.ofMilliseconds 45), .popDue .longest, .advanceTo (.ofMilliseconds 10),
        .advanceToNext, .advance .zero, .advanceToNext]
    (clock.passAll slices).2.now ≤ limit ∧
      clock.passAll (slices ++ [.advanceTo limit]) = clock.advanceTo limit := by
  intro clock limit slices
  have within : (clock.passAll slices).2.now ≤ limit := by decide +kernel
  exact ⟨within, (slices_fire_as_stretch clock slices limit within).1⟩

end VirtualClock
end GridWalk
