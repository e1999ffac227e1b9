import GridWalk.Clock.Duration

/-!
# Schedulers

A scheduler hands out repeating timers and stops them again. Whoever owns a timer is told of its
firings by other means, so starting and cancelling are all a scheduler has to offer.
-/

namespace GridWalk

/-- The handle of a repeating timer. -/
structure TimerId where
  /-- The number of the handle. Fewer than 2^64 timers are assumed, so that a word holds it. -/
  value : Nat
  deriving DecidableEq, Repr

/-- A source of repeating timers with state of type `σ`. -/
class Scheduler (σ : Type) where
  /-- Starts a timer that fires every period, the first time one period from now. -/
  schedule : σ → Duration → TimerId × σ
  /-- Stops a timer. A timer that is unknown or already stopped changes nothing. -/
  cancel : σ → TimerId → σ

/-- One call that a scheduler received. -/
inductive SchedulerCall where
  | schedule (period : Duration)
  | cancel (timer : TimerId)
  deriving DecidableEq

/-- A scheduler that records the calls it receives and hands out one handle for all timers. -/
structure CallRecorder where
  /-- The handle of every timer. -/
  timer : TimerId
  /-- The calls so far, the first one first. -/
  calls : List SchedulerCall
  deriving DecidableEq

instance : Scheduler CallRecorder where
  schedule recorder period :=
    (recorder.timer, { recorder with calls := recorder.calls ++ [.schedule period] })
  cancel recorder timer := { recorder with calls := recorder.calls ++ [.cancel timer] }

end GridWalk
