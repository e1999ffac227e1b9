import GridWalk.Clock.VirtualClock
import GridWalk.Settings

/-!
# Accepted settings

A session runs with the standard settings or with those of a document. Either way some time passes
between two steps, and never less than the shortest period of a timer, so a clock does not change
the interval that it is asked for.
-/

namespace GridWalk

theorem shortestPeriod_le_ofMilliseconds {milliseconds : UInt64}
    (some_time : Duration.ofMilliseconds milliseconds ≠ .zero) :
    shortestPeriod ≤ Duration.ofMilliseconds milliseconds := by
  have shortest_eq : shortestPeriod.nanoseconds = 1000000 := by decide
  have longest_eq : Duration.mostNanoseconds = 18446744073709551615999999999 := by decide
  have zero_eq : Duration.zero.nanoseconds = 0 := rfl
  simp only [Duration.ofMilliseconds, Duration.nanosecondsPerMillisecond, ne_eq, Duration.le_iff,
    Duration.ext_iff, Duration.nanoseconds_saturating] at *
  omega

namespace Settings

/-- Settings that a session may be given: the standard ones, or those that a document gives. -/
def Accepted (settings : Settings) : Prop :=
  settings = {} ∨ ∃ document, ofText document = .ok settings

theorem orStandard_eq_some {α : Type} {read : Toml.Value → Option α} {standard value : α}
    {written : Option Toml.Value} (found : orStandard read standard written = some value) :
    value = standard ∨ ∃ given, read given = some value := by
  cases written with
  | none => exact Or.inl (Option.some.inj found).symm
  | some given => exact Or.inr ⟨given, found⟩

theorem tickInterval_of_movement? {written : Toml.Value} {movement : MovementConfig}
    (found : movement? written = some movement) :
    movement.tickInterval = standardTickInterval ∨
      ∃ milliseconds, movement.tickInterval = Duration.ofMilliseconds milliseconds := by
  unfold movement? at found
  split at found
  · simp only [Option.pure_def, Option.bind_eq_bind, Option.bind_eq_some_iff,
      Option.some.injEq] at found
    obtain ⟨interval, read, policy, -, rfl⟩ := found
    rcases orStandard_eq_some read with standard | ⟨given, given_read⟩
    · exact Or.inl standard
    · obtain ⟨milliseconds, -, rfl⟩ := Option.map_eq_some_iff.mp given_read
      exact Or.inr ⟨milliseconds, rfl⟩
  · cases found

theorem tickInterval_of_ofEntries? {entries : Toml.Entries} {version : UInt32}
    {settings : Settings} (found : ofEntries? entries = some (version, settings)) :
    settings.movement.tickInterval = standardTickInterval ∨
      ∃ milliseconds, settings.movement.tickInterval = Duration.ofMilliseconds milliseconds := by
  unfold ofEntries? at found
  split at found
  · simp only [Option.pure_def, Option.bind_eq_bind, Option.bind_eq_some_iff, Option.some.injEq,
      Prod.mk.injEq] at found
    obtain ⟨search, -, movement, read, _, -, -, rfl⟩ := found
    rcases orStandard_eq_some read with rfl | ⟨given, given_read⟩
    · exact Or.inl rfl
    · exact tickInterval_of_movement? given_read
  · cases found

theorem shortestPeriod_le_of_accepted {settings : Settings} (accepted : settings.Accepted) :
    shortestPeriod ≤ settings.movement.tickInterval := by
  have standard_le : shortestPeriod ≤ standardTickInterval := by decide
  rcases accepted with rfl | ⟨document, read⟩
  · exact standard_le
  · unfold ofText at read
    split at read
    · cases read
    · rename_i version given found
      obtain ⟨entries, -, found⟩ := Option.bind_eq_some_iff.mp found
      split at read
      · cases read
      · split at read
        · cases read
        · rename_i some_time
          cases read
          rcases tickInterval_of_ofEntries? found with standard | ⟨milliseconds, interval_eq⟩
          · rw [standard]
            exact standard_le
          · rw [interval_eq] at some_time ⊢
            exact shortestPeriod_le_ofMilliseconds some_time

end Settings

end GridWalk
