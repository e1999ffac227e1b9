import GridWalk.Proofs.Clock.Slices
import GridWalk.Proofs.Session.Walk

/-!
# Firings brought singly and in batches

A host may bring each firing to the controller before the next timer fires, or let time pass first
and then bring all that has fired. The two get out of step when a move ends: brought singly, the end
cancels its timer at once, while in a batch the timer has gone on firing. The main statement says
that this does not show. What the timer of an ended move still fires comes to nothing, and the clock
behind the stretch of time is the same whether a timer is cancelled in the middle of it or behind
it.
-/

namespace GridWalk

/-- A timer that is cancelled behind a stretch of time might as well have been cancelled before. -/
theorem VirtualClock.advanceTo_cancel {clock : VirtualClock} (nodup : clock.handles.Nodup)
    (id : TimerId) (limit : Duration) :
    ((clock.cancel id).advanceTo limit).2 = (clock.advanceTo limit).2.cancel id := by
  have kept := nodup.sublist (clock.handles_cancel_sublist id)
  rw [clock_advanceTo kept, clock_advanceTo nodup]
  simp only [cancel, List.filter_map]
  rfl

/-- What comes of a firing that is brought to the controller. -/
structure Delivery where
  outcome : TickOutcome
  /-- The commands that the controller sends to the world. -/
  commands : List Command
  /-- What the world tells of these commands. -/
  events : List Event
  deriving DecidableEq

namespace Delivery

/-- The firing belongs to no move in progress, and nothing comes of it. -/
def stale : Delivery := ⟨.stale, [], []⟩

variable {deliveries : List Delivery}

theorem filter_map_stale (firings : List Firing) :
    (firings.map fun _ => stale).filter (· ≠ stale) = [] := by
  simp

/-- Stale deliveries contribute nothing to what is gathered from the others. -/
theorem flatMap_filter_ne_stale {α : Type} {gather : Delivery → List α}
    (nothing : gather stale = []) :
    (deliveries.filter (· ≠ stale)).flatMap gather = deliveries.flatMap gather := by
  induction deliveries with
  | nil => rfl
  | cons delivery deliveries induction =>
      by_cases same : delivery = stale
      · rw [List.filter_cons_of_neg (by simp [same]), List.flatMap_cons, same, nothing, induction,
          List.nil_append]
      · rw [List.filter_cons_of_pos (by simp [same]), List.flatMap_cons, List.flatMap_cons,
          induction]

/-- The outcomes of the deliveries that were not turned down. -/
def outcomes (deliveries : List Delivery) : List TickOutcome :=
  (deliveries.map outcome).filter (· ≠ .stale)

theorem outcomes_eq_flatMap (deliveries : List Delivery) :
    outcomes deliveries = deliveries.flatMap fun delivery =>
      [delivery.outcome].filter (· ≠ .stale) := by
  induction deliveries with
  | nil => rfl
  | cons delivery deliveries induction =>
      rw [List.flatMap_cons, ← induction, outcomes, outcomes, ← List.filter_append]
      rfl

end Delivery

namespace Session

variable {session : Session} {limit : Duration} {timer : TimerId} {firings : List Firing}

/-- What comes of a firing of the timer. -/
def delivery (session : Session) (timer : TimerId) : Delivery :=
  let reply := session.controller.tick session.clock timer session.world.mover.cell
  ⟨reply.outcome, reply.commands, (session.world.applyAll reply.commands).events⟩

/-- Brings firings that have been collected, one after another. -/
def deliverAll (session : Session) : List Firing → Session × List Delivery
  | [] => (session, [])
  | firing :: firings =>
      let (final, deliveries) := (session.deliver firing.timer).session.deliverAll firings
      (final, session.delivery firing.timer :: deliveries)

/-- Lets time pass up to the limit and then brings all that has fired. -/
def deliverBatch (session : Session) (limit : Duration) : Session × List Delivery :=
  let (firings, clock) := session.clock.advanceTo limit
  { session with clock := clock }.deliverAll firings

/-- Brings each firing that is due by the limit before the next timer fires, and lets time pass up
to the limit when nothing is due any more. -/
def deliverSingly (session : Session) (limit : Duration) : Session × List Delivery :=
  match _popped : session.clock.popDue? limit with
  | none => session.deliverBatch limit
  | some (firing, clock) =>
      let fired : Session := { session with clock := clock }
      let (final, deliveries) := (fired.deliver firing.timer).session.deliverSingly limit
      (final, fired.delivery firing.timer :: deliveries)
termination_by session.clock.backlog limit
decreasing_by
  have popped := VirtualClock.backlog_popDue?_lt ‹_›
  exact Nat.lt_of_le_of_lt (backlog_deliver_le _ _ _) popped

/-! ## A single firing -/

/-- What a firing does to a session, whatever the state of its clock. -/
inductive FiringCase (session : Session) (timer : TimerId) : Prop where
  /-- The clock is left alone. -/
  | goesOn (later : Session) (delivery : Delivery)
      (session_eq : ∀ clock, ({ session with clock := clock }.deliver timer).session =
        { later with clock := clock })
      (delivery_eq : ∀ clock, { session with clock := clock }.delivery timer = delivery)
  /-- The move in progress ends, and its timer is cancelled. -/
  | ends (later : Session) (delivery : Delivery) (idle : later.controller.active = none)
      (session_eq : ∀ clock, ({ session with clock := clock }.deliver timer).session =
        { later with clock := clock.cancel timer })
      (delivery_eq : ∀ clock, { session with clock := clock }.delivery timer = delivery)

theorem deliver_of_foreign (foreign : ∀ move ∈ session.controller.active, move.timer ≠ timer) :
    (session.deliver timer).session = session ∧ session.delivery timer = .stale := by
  rw [deliver, delivery, Controller.tick_of_foreign foreign]
  exact ⟨rfl, rfl⟩

theorem firing_case (session : Session) (timer : TimerId) : session.FiringCase timer := by
  have answered := session.controller.tick_case session.clock timer session.world.mover.cell
  generalize session.controller.tick session.clock timer session.world.mover.cell = reply
    at answered
  cases answered with
  | stale foreign =>
      refine .goesOn session .stale (fun clock => ?_) fun clock => ?_
      · rw [deliver, Controller.tick_of_foreign foreign]
        rfl
      · rw [delivery, Controller.tick_of_foreign foreign]
        rfl
  | finished active =>
      let world := session.world.apply .settleMover
      refine .ends ⟨world.world, session.clock, session.controller.idle⟩
        ⟨.finished, [.settleMover], world.events⟩ rfl (fun clock => ?_) fun clock => ?_
      · rw [deliver, Controller.tick_of_nil active]
        rfl
      · rw [delivery, Controller.tick_of_nil active]
        rfl
  | @advanced next rest active =>
      let direction := Controller.facing session.world.mover.cell next
      let world := session.world.apply (.advanceMover direction next)
      refine .goesOn ⟨world.world, session.clock, session.controller.walking ⟨⟨rest⟩, timer⟩⟩
        ⟨.advanced direction next, [.advanceMover direction next], world.events⟩
        (fun clock => ?_) fun clock => ?_
      · rw [deliver, Controller.tick_of_cons active]
        rfl
      · rw [delivery, Controller.tick_of_cons active]
        rfl

/-! ## Firings behind the end of a move -/

/-- Where no move is in progress, nothing comes of any firing. -/
theorem deliverAll_of_idle (idle : session.controller.active = none) (firings : List Firing) :
    session.deliverAll firings = (session, firings.map fun _ => .stale) := by
  induction firings with
  | nil => rfl
  | cons firing firings induction =>
      obtain ⟨session_eq, delivery_eq⟩ : (session.deliver firing.timer).session = session ∧
          session.delivery firing.timer = .stale := deliver_of_foreign (by simp [idle])
      rw [deliverAll, session_eq, induction, delivery_eq]
      rfl

theorem deliverBatch_of_idle (idle : session.controller.active = none) (limit : Duration) :
    session.deliverBatch limit = ({ session with clock := (session.clock.advanceTo limit).2 },
      (session.clock.advanceTo limit).1.map fun _ => .stale) := by
  let passed : Session := { session with clock := (session.clock.advanceTo limit).2 }
  have still_idle : passed.controller.active = none := idle
  exact deliverAll_of_idle still_idle _

theorem deliverSingly_of_idle (idle : session.controller.active = none) (limit : Duration) :
    session.deliverSingly limit = session.deliverBatch limit := by
  fun_induction deliverSingly session limit with
  | case1 session nothing => rfl
  | case2 session firing clock popped fired final deliveries delivered induction =>
      have still_idle : fired.controller.active = none := idle
      obtain ⟨session_eq, delivery_eq⟩ : (fired.deliver firing.timer).session = fired ∧
          fired.delivery firing.timer = .stale := deliver_of_foreign (by simp [still_idle])
      rw [session_eq] at delivered induction
      rw [induction still_idle, deliverBatch_of_idle still_idle] at delivered
      obtain ⟨rfl, rfl⟩ := Prod.mk.inj delivered
      rw [deliverBatch_of_idle idle, VirtualClock.advanceTo_of_popDue?_eq_some popped, delivery_eq]
      rfl

/-! ## All that is due -/

theorem deliverAll_cons (session : Session) (firing : Firing) (firings : List Firing) :
    session.deliverAll (firing :: firings) =
      (((session.deliver firing.timer).session.deliverAll firings).1,
        session.delivery firing.timer ::
          ((session.deliver firing.timer).session.deliverAll firings).2) :=
  rfl

/-- Brought in a batch or singly, firings leave the same session behind and the same comes of them,
up to those that come to nothing. -/
theorem deliverBatch_agrees (nodup : session.clock.handles.Nodup) (limit : Duration) :
    (session.deliverBatch limit).1 = (session.deliverSingly limit).1 ∧
      (session.deliverBatch limit).2.filter (· ≠ .stale) =
        (session.deliverSingly limit).2.filter (· ≠ .stale) := by
  fun_induction deliverSingly session limit with
  | case1 session nothing => exact ⟨rfl, rfl⟩
  | case2 session firing clock popped fired final deliveries delivered induction =>
      have later_nodup : clock.handles.Nodup :=
        (VirtualClock.pops_of_popDue? popped).nodup_handles nodup
      let passed : Session := { session with clock := (clock.advanceTo limit).2 }
      have batch_eq : session.deliverBatch limit =
          passed.deliverAll (firing :: (clock.advanceTo limit).1) := by
        rw [deliverBatch, VirtualClock.advanceTo_of_popDue?_eq_some popped]
      rw [batch_eq, deliverAll_cons]
      cases session.firing_case firing.timer with
      | goesOn later delivery session_eq delivery_eq =>
          -- The rest of the batch is the batch of the session behind the firing.
          let onward : Session := { later with clock := clock }
          have rest_eq : (passed.deliver firing.timer).session.deliverAll
              (clock.advanceTo limit).1 = onward.deliverBatch limit := by
            rw [session_eq, deliverBatch]
          rw [session_eq] at delivered induction
          obtain ⟨final_eq, effects_eq⟩ := induction later_nodup
          rw [delivered] at final_eq effects_eq
          rw [rest_eq, delivery_eq, delivery_eq, List.filter_cons, List.filter_cons, effects_eq]
          exact ⟨final_eq, rfl⟩
      | ends later delivery idle session_eq delivery_eq =>
          -- The timer of the move fires on in the batch only, and there for nothing.
          have still_idle (clock : VirtualClock) :
              ({ later with clock := clock } : Session).controller.active = none := idle
          rw [session_eq, deliverSingly_of_idle (still_idle _),
            deliverBatch_of_idle (still_idle _)] at delivered
          obtain ⟨rfl, rfl⟩ := Prod.mk.inj delivered
          rw [session_eq, deliverAll_of_idle (still_idle _), delivery_eq, delivery_eq,
            VirtualClock.advanceTo_cancel later_nodup]
          refine ⟨rfl, ?_⟩
          rw [List.filter_cons, List.filter_cons, Delivery.filter_map_stale,
            Delivery.filter_map_stale]

/-- A wait brings its firings singly. -/
theorem session_deliverSingly (session : Session) (limit : Duration) :
    (session.deliverSingly limit).1 = (session.waitUntil limit).session := by
  rw [waitUntil]
  fun_induction deliverSingly session limit with
  | case1 session nothing =>
      rw [deliverWhile_of_ended (Or.inr nothing), deliverBatch,
        VirtualClock.advanceTo_of_popDue?_eq_none nothing]
      rfl
  | case2 session firing clock popped fired final deliveries delivered induction =>
      rw [delivered] at induction
      rw [induction, deliverWhile_of_popDue?_eq_some rfl popped]
      rfl

/-- Whether firings are brought in a batch or singly makes no difference, in every world and for
every controller and clock. A wait of a session is one of the two ways. -/
theorem batch_agrees_with_singly (world : World) (operations : List VirtualClock.Operation)
    (controller : Controller) (limit : Duration) :
    let session : Session := ⟨world, VirtualClock.initial.performAll operations, controller⟩
    let batch := session.deliverBatch limit
    let singly := session.deliverSingly limit
    batch.1 = singly.1 ∧
      batch.2.flatMap Delivery.commands = singly.2.flatMap Delivery.commands ∧
      batch.2.flatMap Delivery.events = singly.2.flatMap Delivery.events ∧
      Delivery.outcomes batch.2 = Delivery.outcomes singly.2 ∧
      singly.1 = (session.waitUntil limit).session := by
  intro session batch singly
  have nodup : session.clock.handles.Nodup :=
    (VirtualClock.sound_performAll VirtualClock.sound_initial operations).nodup
  have agrees : batch.1 = singly.1 ∧
      batch.2.filter (· ≠ .stale) = singly.2.filter (· ≠ .stale) := deliverBatch_agrees nodup limit
  obtain ⟨final_eq, effects_eq⟩ := agrees
  have gathered_eq {α : Type} {gather : Delivery → List α} (nothing : gather .stale = []) :
      batch.2.flatMap gather = singly.2.flatMap gather := by
    rw [← Delivery.flatMap_filter_ne_stale nothing, effects_eq,
      Delivery.flatMap_filter_ne_stale nothing]
  refine ⟨final_eq, gathered_eq rfl, gathered_eq rfl, ?_, session.session_deliverSingly limit⟩
  rw [Delivery.outcomes_eq_flatMap, Delivery.outcomes_eq_flatMap]
  exact gathered_eq rfl

/-- Another timer ticks beside that of a move of one step. In the batch the timer of the move still
fires when the move has ended. -/
example :
    let clock := (VirtualClock.initial.schedule (.ofMilliseconds 200)).2
    let route : Route := ⟨[⟨1, 0⟩]⟩
    let scheduled := clock.schedule (.ofMilliseconds 120)
    let session : Session :=
      ⟨World.initial, scheduled.2, { active := some ⟨route, scheduled.1⟩ }⟩
    let limit := Duration.ofMilliseconds 600
    (session.deliverBatch limit).2.length = 8 ∧ (session.deliverSingly limit).2.length = 5 ∧
      Delivery.outcomes (session.deliverBatch limit).2 = [.advanced .east ⟨1, 0⟩, .finished] := by
  decide +kernel

end Session
end GridWalk
