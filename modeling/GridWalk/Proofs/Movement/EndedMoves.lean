import GridWalk.Proofs.Clock.Merge
import GridWalk.Proofs.Movement.TimerTrace

/-!
# Moves that have ended

A controller on a virtual clock hears of firings only when somebody brings them, and that may be
long after the timer was stopped: firings are collected in batches, and moves end and begin in
between. The main statement says that nothing comes of a firing whose move has ended. It rests on
the clock, which never hands out a handle twice, so that no later move ticks on an old one.
-/

namespace GridWalk

/-- Something that happens to a controller or to the clock it runs on. -/
inductive ClockedStep where
  | call (call : ControllerCall)
  /-- The clock is told something that the controller does not hear of. -/
  | clock (operation : VirtualClock.Operation)

namespace ControllerAnswer

/-- Whether the call has ended a move in progress, if there was one: it was stopped, has come to its
end, or made way for another request. -/
def isEnd : ControllerAnswer → Bool
  | stopped ended => ended
  | ticked .finished | requested (.started _) | requested .alreadyThere => true
  | _ => false

theorem isSilent_of_isEnd {answer : ControllerAnswer} (isEnd : answer.isEnd = true) :
    answer.isSilent = false := by
  rcases answer with outcome | outcome | stopped
  · cases outcome <;> first | rfl | cases isEnd
  · cases outcome <;> first | rfl | cases isEnd
  · rfl

end ControllerAnswer

namespace Host

variable {host later : Host VirtualClock} {timer : TimerId}

/-- The host after a step. -/
def step (host : Host VirtualClock) : ClockedStep → Host VirtualClock
  | .call call => (host.call call).host
  | .clock operation => { host with scheduler := host.scheduler.perform operation }

/-- The host after several steps. -/
def stepAll (host : Host VirtualClock) (steps : List ClockedStep) : Host VirtualClock :=
  steps.foldl step host

/-! ## A single call -/

theorem nextId_stop (host : Host VirtualClock) :
    (host.controller.stop host.scheduler).scheduler.nextId = host.scheduler.nextId := by
  cases active : host.controller.active with
  | none => rw [Controller.stop_of_idle active]
  | some move =>
      rw [Controller.stop_of_walking active]
      rfl

/-- What a call makes of the timer of the move in progress: it stays if the call has nothing to do
with timers; otherwise there is none afterwards, or the next one that the clock hands out. -/
inductive TimerChange (host : Host VirtualClock) (reply : HostReply VirtualClock) : Prop where
  | kept (silent : reply.answer.isSilent = true)
      (same : reply.host.controller.activeTimer? = host.controller.activeTimer?)
      (nextId_eq : reply.host.scheduler.nextId = host.scheduler.nextId)
  | dropped (idle : reply.host.controller.activeTimer? = none)
      (nextId_eq : reply.host.scheduler.nextId = host.scheduler.nextId)
  | replaced (next : reply.host.controller.activeTimer? = some ⟨host.scheduler.nextId⟩)
      (nextId_eq : reply.host.scheduler.nextId = host.scheduler.nextId + 1)

theorem timerChange_call (host : Host VirtualClock) (call : ControllerCall) :
    host.TimerChange (host.call call) := by
  have answered := host.call_case call
  generalize host.call call = reply at answered
  cases answered with
  | refused refusal => exact .kept (ControllerAnswer.isSilent_of_isRefusal refusal) rfl rfl
  | stepped active => exact .kept rfl (congrArg (Option.map ActiveMove.timer) active).symm rfl
  | ended loud => exact .dropped rfl host.nextId_stop
  | started =>
      refine .replaced ?_ (congrArg (· + 1) host.nextId_stop)
      exact congrArg (fun number => some (TimerId.mk number)) host.nextId_stop

/-! ## Handles that have been handed out -/

/-- The timer of the move in progress was handed out by the clock. -/
def Issued (host : Host VirtualClock) : Prop :=
  ∀ timer, host.controller.activeTimer? = some timer → timer.value < host.scheduler.nextId

/-- The timer was handed out by the clock and ticks for no move in progress. -/
structure Spent (host : Host VirtualClock) (timer : TimerId) : Prop where
  issued : timer.value < host.scheduler.nextId
  inactive : host.controller.activeTimer? ≠ some timer

theorem issued_step (issued : host.Issued) (step : ClockedStep) : (host.step step).Issued := by
  cases step with
  | clock operation =>
      intro timer active
      exact (issued timer active).trans_le (host.scheduler.nextId_le_perform operation)
  | call call =>
      intro timer active
      rw [step] at active ⊢
      cases host.timerChange_call call with
      | kept silent same nextId_eq =>
          rw [nextId_eq]
          exact issued timer (same ▸ active)
      | dropped idle nextId_eq =>
          rw [idle] at active
          cases active
      | replaced next nextId_eq =>
          obtain rfl := Option.some.inj (next.symm.trans active)
          rw [nextId_eq]
          exact Nat.lt_succ_self _

theorem issued_stepAll (issued : host.Issued) (steps : List ClockedStep) :
    (host.stepAll steps).Issued := by
  induction steps generalizing host with
  | nil => exact issued
  | cons step steps induction => exact induction (issued_step issued step)

/-- A timer that a call gives up, or that ticked for no move before, is spent afterwards: a move
that begins takes a newer one. -/
theorem TimerChange.spent {reply : HostReply VirtualClock} (change : host.TimerChange reply)
    (issued : timer.value < host.scheduler.nextId)
    (given_up : reply.answer.isSilent = false ∨ host.controller.activeTimer? ≠ some timer) :
    reply.host.Spent timer := by
  cases change with
  | kept silent same nextId_eq =>
      have inactive := given_up.resolve_left (by simp [silent])
      exact ⟨nextId_eq ▸ issued, same ▸ inactive⟩
  | dropped idle nextId_eq => exact ⟨nextId_eq ▸ issued, by simp [idle]⟩
  | replaced next nextId_eq =>
      refine ⟨by omega, ?_⟩
      rw [next]
      rintro ⟨rfl⟩
      exact Nat.lt_irrefl _ issued

theorem spent_step (spent : host.Spent timer) (step : ClockedStep) :
    (host.step step).Spent timer := by
  cases step with
  | clock operation =>
      exact ⟨spent.issued.trans_le (host.scheduler.nextId_le_perform operation), spent.inactive⟩
  | call call => exact (host.timerChange_call call).spent spent.issued (Or.inr spent.inactive)

theorem spent_stepAll (spent : host.Spent timer) (steps : List ClockedStep) :
    (host.stepAll steps).Spent timer := by
  induction steps generalizing host with
  | nil => exact spent
  | cons step steps induction => exact induction (spent_step spent step)

/-- The end of a move leaves its timer spent, even if another move begins at once. -/
theorem spent_of_isEnd {call : ControllerCall} (issued : host.Issued)
    (active : host.controller.activeTimer? = some timer)
    (isEnd : (host.call call).answer.isEnd = true) : (host.call call).host.Spent timer :=
  (host.timerChange_call call).spent (issued timer active)
    (Or.inl (ControllerAnswer.isSilent_of_isEnd isEnd))

/-- The firing of a spent timer is turned down and changes nothing. -/
theorem call_tick_of_spent (spent : host.Spent timer) (mover : Cell) :
    host.call (.tick timer mover) = ⟨host, .ticked .stale, []⟩ := by
  have foreign : ∀ move ∈ host.controller.active, move.timer ≠ timer := by
    rintro move active rfl
    exact spent.inactive (by rw [Controller.activeTimer?, active]; rfl)
  rw [call, Controller.tick_of_foreign foreign]

/-! ## Whatever happens in between -/

theorem issued_fresh (movement : MovementConfig) (search : SearchConfig) (clock : VirtualClock) :
    (fresh movement search clock).Issued := by
  intro timer active
  cases active

/-- Once a move has ended, in whichever way, nothing comes of its timer any more: a firing that is
brought later is turned down and leaves the controller and the clock as they were. -/
theorem stale_of_ended_move (movement : MovementConfig) (search : SearchConfig)
    (earlier later : List ClockedStep) (ending : ControllerCall) (timer : TimerId) (mover : Cell)
    (active : ((fresh movement search .initial).stepAll earlier).controller.activeTimer? =
      some timer)
    (ends : (((fresh movement search .initial).stepAll earlier).call ending).answer.isEnd = true) :
    let host := (((fresh movement search .initial).stepAll earlier).call ending).host.stepAll later
    host.call (.tick timer mover) = ⟨host, .ticked .stale, []⟩ := by
  intro host
  have issued := issued_stepAll (issued_fresh movement search .initial) earlier
  exact call_tick_of_spent (spent_stepAll (spent_of_isEnd issued active ends) later) mover

/-- Three firings are collected, one of them is brought, the move is stopped and another one begins;
the two firings that were still to be brought belong to the first move and come to nothing. -/
theorem stale_of_stopped_move :
    let size : GridSize := ⟨3, 1⟩
    let vacant := Probe.ofPredicate fun _ => false
    let earlier : List ClockedStep :=
      [.call (.moveTo ⟨0, 0⟩ ⟨2, 0⟩ size vacant), .clock (.advance (.ofMilliseconds 360)),
        .call (.tick ⟨0⟩ ⟨0, 0⟩)]
    let later : List ClockedStep := [.call (.moveTo ⟨1, 0⟩ ⟨0, 0⟩ size vacant)]
    let before := (fresh {} {} VirtualClock.initial).stepAll earlier
    let after := (before.call .stop).host.stepAll later
    before.controller.activeTimer? = some ⟨0⟩ ∧ (before.call .stop).answer.isEnd = true ∧
      after.controller.activeTimer? = some ⟨1⟩ ∧
      after.call (.tick ⟨0⟩ ⟨1, 0⟩) = ⟨after, .ticked .stale, []⟩ := by
  intro size vacant earlier later before after
  have active : before.controller.activeTimer? = some ⟨0⟩ := by decide +kernel
  have ends : (before.call .stop).answer.isEnd = true := by decide +kernel
  have goes_on : after.controller.activeTimer? = some ⟨1⟩ := by decide +kernel
  exact ⟨active, ends, goes_on,
    stale_of_ended_move {} {} earlier later .stop ⟨0⟩ ⟨1, 0⟩ active ends⟩

end Host
end GridWalk
