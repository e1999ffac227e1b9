/-!
# Durations

Lengths of virtual time, also used for instants counted from the start. A duration is a whole number
of nanoseconds up to a greatest one; sums and products either stop there or are absent beyond it.
-/

namespace GridWalk

namespace Duration

/-- The nanoseconds of a millisecond. -/
def nanosecondsPerMillisecond : Nat := 1000000

/-- The nanoseconds of a second. -/
def nanosecondsPerSecond : Nat := 1000 * nanosecondsPerMillisecond

/-- The greatest number of nanoseconds of a duration: all seconds that 64 bits count, and the last
nanosecond before the next. -/
def mostNanoseconds : Nat := UInt64.size * nanosecondsPerSecond - 1

end Duration

/-- A length of virtual time. -/
structure Duration where
  /-- The length in nanoseconds. -/
  nanoseconds : Nat
  /-- No duration exceeds the greatest one. -/
  nanoseconds_le : nanoseconds ≤ Duration.mostNanoseconds
  deriving DecidableEq

namespace Duration

@[ext]
theorem ext {left right : Duration} (same : left.nanoseconds = right.nanoseconds) :
    left = right := by
  cases left
  cases right
  simpa using same

/-- No time at all. -/
def zero : Duration := ⟨0, Nat.zero_le _⟩

/-- The greatest duration. -/
def longest : Duration := ⟨mostNanoseconds, Nat.le_refl _⟩

/-- The number of nanoseconds, or the greatest duration if there are more. -/
def saturating (nanoseconds : Nat) : Duration :=
  ⟨min nanoseconds mostNanoseconds, Nat.min_le_right _ _⟩

/-- The number of nanoseconds, if a duration holds it. -/
def checked (nanoseconds : Nat) : Option Duration :=
  if within : nanoseconds ≤ mostNanoseconds then some ⟨nanoseconds, within⟩ else none

/-- A number of milliseconds. -/
def ofMilliseconds (milliseconds : UInt64) : Duration :=
  saturating (milliseconds.toNat * nanosecondsPerMillisecond)

/-- The whole milliseconds in a duration. -/
def milliseconds (duration : Duration) : Nat :=
  duration.nanoseconds / nanosecondsPerMillisecond

instance : Inhabited Duration := ⟨zero⟩

instance : LE Duration := ⟨fun left right => left.nanoseconds ≤ right.nanoseconds⟩

instance (left right : Duration) : Decidable (left ≤ right) :=
  inferInstanceAs (Decidable (left.nanoseconds ≤ right.nanoseconds))

instance : Max Duration := ⟨fun left right => if left ≤ right then right else left⟩

/-- The sum, or the greatest duration if the sum is greater. -/
def saturatingAdd (left right : Duration) : Duration :=
  saturating (left.nanoseconds + right.nanoseconds)

/-- The sum, if a duration holds it. -/
def checkedAdd (left right : Duration) : Option Duration :=
  checked (left.nanoseconds + right.nanoseconds)

/-- A duration repeated, or the greatest duration if that is longer. -/
def saturatingMul (duration : Duration) (times : Nat) : Duration :=
  saturating (duration.nanoseconds * times)

theorem le_iff {left right : Duration} : left ≤ right ↔ left.nanoseconds ≤ right.nanoseconds :=
  Iff.rfl

@[simp]
theorem nanoseconds_max (left right : Duration) :
    (max left right).nanoseconds = max left.nanoseconds right.nanoseconds := by
  change (if left ≤ right then right else left).nanoseconds = _
  split
  · rename_i le
    exact (Nat.max_eq_right le).symm
  · rename_i gt
    exact (Nat.max_eq_left (Nat.le_of_lt (Nat.lt_of_not_le gt))).symm

@[simp]
theorem nanoseconds_saturating (nanoseconds : Nat) :
    (saturating nanoseconds).nanoseconds = min nanoseconds mostNanoseconds := rfl

theorem checked_eq_some_iff {nanoseconds : Nat} {duration : Duration} :
    checked nanoseconds = some duration ↔ duration.nanoseconds = nanoseconds := by
  unfold checked
  split
  · simp [Duration.ext_iff, eq_comm]
  · rename_i beyond
    simp only [reduceCtorEq, false_iff]
    intro same
    exact beyond (same ▸ duration.nanoseconds_le)

theorem checked_eq_none_iff {nanoseconds : Nat} :
    checked nanoseconds = none ↔ mostNanoseconds < nanoseconds := by
  unfold checked
  split <;> simp <;> omega

end Duration

end GridWalk
