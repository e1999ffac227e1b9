import GridWalk.Proofs.World.Reach

/-!
# The turns of a distance field

Cells have their turns in the order of their distances. The distances in the queue differ by at
most one, so no cell behind the front can be told of a shorter way, and what a turn gives a distance
to had none before. A field is therefore filled in as many turns as cells have a distance.
-/

namespace GridWalk
namespace DistanceField
namespace Flood

variable {size : GridSize} {isBlocked : Cell → Bool} {origin cell other : Cell}
  {visited rest : List Cell} {field : DistanceField size} {flood : Flood size}

/-- The cells that have had a turn and those that wait for one, in the order of their distances. -/
structure InOrder (visited : List Cell) (flood : Flood size) : Prop where
  /-- No cell has two turns. -/
  nodup : (visited ++ flood.queue).Nodup
  /-- All cells with a distance have a turn. -/
  mem_iff : ∀ cell, cell ∈ visited ++ flood.queue ↔ flood.field.label cell < unreached
  /-- The distances never fall. -/
  ascending : (visited ++ flood.queue).Pairwise fun cell later =>
    flood.field.label cell ≤ flood.field.label later
  /-- The distances in the queue differ by at most one. -/
  near : ∀ cell ∈ flood.queue, ∀ later ∈ flood.queue,
    flood.field.label later ≤ flood.field.label cell + 1

namespace InOrder

theorem start (inside : size.contains origin = true) :
    InOrder [] (Flood.start size origin) := by
  constructor
  · exact List.nodup_singleton origin
  · intro cell
    rw [label_start inside]
    by_cases same : cell = origin
    · simp [Flood.start, same, unreached, UInt32.size]
    · simp [Flood.start, same]
  · exact List.pairwise_singleton _ origin
  · simp [Flood.start]

/-- No distance is more than one step behind that of the cell whose turn it is. -/
theorem label_le (ordered : InOrder visited ⟨field, cell :: rest⟩)
    (known : field.label other < unreached) : field.label other ≤ field.label cell + 1 := by
  rcases List.mem_append.mp ((ordered.mem_iff other).mpr known) with member | waits
  · have earlier := (List.pairwise_append.mp ordered.ascending).2.2 other member cell
      List.mem_cons_self
    exact Nat.le_succ_of_le earlier
  · exact ordered.near cell List.mem_cons_self other waits

/-- What a turn improves had no distance. -/
theorem label_eq_unreached (ordered : InOrder visited ⟨field, cell :: rest⟩)
    (improves : Improves isBlocked field cell other) : field.label other = unreached := by
  by_contra missing
  have known := Nat.lt_of_le_of_ne (field.label_le_unreached other) missing
  exact Nat.not_lt.mpr (ordered.label_le known) improves.2

/-- A turn leaves all distances as they are. -/
theorem label_spread_of_known (ordered : InOrder visited ⟨field, cell :: rest⟩)
    (known : field.label other < unreached) :
    (Flood.spread isBlocked cell ⟨field, rest⟩).field.label other = field.label other := by
  rw [label_spread, if_neg]
  intro improves
  exact Nat.ne_of_lt known (ordered.label_eq_unreached improves)

/-- Behind a turn the cells that wait are as far as the cell that had it, or one step farther. -/
theorem label_mem_Icc (ordered : InOrder visited ⟨field, cell :: rest⟩)
    (waits : other ∈ (Flood.spread isBlocked cell ⟨field, rest⟩).queue) :
    (Flood.spread isBlocked cell ⟨field, rest⟩).field.label other ∈
      Set.Icc (field.label cell) (field.label cell + 1) := by
  obtain ⟨joined, queue_eq, -, mem_joined⟩ := queue_spread isBlocked cell ⟨field, rest⟩
  rw [queue_eq, List.mem_append, mem_joined] at waits
  rcases waits with stays | improves
  · have behind := (List.pairwise_append.mp ordered.ascending).2.1
    have member := List.mem_append_right visited (List.mem_cons_of_mem cell stays)
    have known := (ordered.mem_iff other).mp member
    rw [ordered.label_spread_of_known known]
    exact ⟨List.rel_of_pairwise_cons behind stays, ordered.label_le known⟩
  · rw [label_spread, if_pos improves]
    exact ⟨Nat.le_succ _, Nat.le_refl _⟩

/-- A turn puts the cells that it gives a distance to behind all others. -/
theorem spread (ordered : InOrder visited ⟨field, cell :: rest⟩) :
    InOrder (visited ++ [cell]) (Flood.spread isBlocked cell ⟨field, rest⟩) := by
  obtain ⟨joined, queue_eq, joined_nodup, mem_joined⟩ :=
    queue_spread isBlocked cell ⟨field, rest⟩
  have listed : (visited ++ [cell]) ++ (Flood.spread isBlocked cell ⟨field, rest⟩).queue =
      (visited ++ cell :: rest) ++ joined := by
    rw [queue_eq, List.append_assoc, List.append_assoc, List.singleton_append, List.cons_append]
  have label_joined (other : Cell) (joins : other ∈ joined) :
      (Flood.spread isBlocked cell ⟨field, rest⟩).field.label other = field.label cell + 1 := by
    rw [label_spread, if_pos ((mem_joined other).mp joins)]
  constructor
  · rw [listed, List.nodup_append]
    refine ⟨ordered.nodup, joined_nodup, ?_⟩
    rintro other member _ joins rfl
    have known := (ordered.mem_iff other).mp member
    exact Nat.ne_of_lt known (ordered.label_eq_unreached ((mem_joined other).mp joins))
  · intro other
    rw [listed, List.mem_append, ordered.mem_iff, mem_joined, label_spread]
    split
    · rename_i improves
      have bound := field.label_le_unreached other
      exact iff_of_true (Or.inr improves) (Nat.lt_of_lt_of_le improves.2 bound)
    · rename_i kept
      exact or_iff_left kept
  · rw [listed, List.pairwise_append]
    refine ⟨?_, ?_, ?_⟩
    · refine ordered.ascending.imp_of_mem ?_
      intro earlier later earlier_mem later_mem label_le
      rwa [ordered.label_spread_of_known ((ordered.mem_iff earlier).mp earlier_mem),
        ordered.label_spread_of_known ((ordered.mem_iff later).mp later_mem)]
    · refine List.pairwise_of_forall_mem_list ?_
      intro earlier earlier_joins later later_joins
      rw [label_joined earlier earlier_joins, label_joined later later_joins]
    · intro earlier earlier_mem later later_joins
      have known := (ordered.mem_iff earlier).mp earlier_mem
      rw [ordered.label_spread_of_known known, label_joined later later_joins]
      exact ordered.label_le known
  · intro first waits later later_waits
    have near := (ordered.label_mem_Icc waits).1
    have far := (ordered.label_mem_Icc later_waits).2
    exact Nat.le_trans far (Nat.succ_le_succ near)

end InOrder

theorem Visits.inOrder (inside : size.contains origin = true)
    (visits : Visits isBlocked origin visited flood) : InOrder visited flood := by
  induction visits with
  | start => exact InOrder.start inside
  | turn _ ordered => exact ordered.spread

/-- A turn gives a distance to cells that had none, and changes no other. -/
theorem Visits.distance?_eq_none (inside : size.contains origin = true)
    (visits : Visits isBlocked origin visited ⟨field, cell :: rest⟩)
    (changed : (spread isBlocked cell ⟨field, rest⟩).field.distance? other ≠
      field.distance? other) : field.distance? other = none := by
  rw [Option.eq_none_iff_forall_ne_some]
  intro count known
  obtain ⟨label_eq, below⟩ := distance?_eq_some_iff.mp known
  have kept : (spread isBlocked cell ⟨field, rest⟩).field.label other = field.label other :=
    (visits.inOrder inside).label_spread_of_known (label_eq ▸ below)
  apply changed
  rw [known, distance?_eq_some_iff, kept]
  exact ⟨label_eq, below⟩

end Flood

open Flood

variable {size : GridSize} {isBlocked : Cell → Bool} {origin : Cell}

/-- To fill a field every cell that has a distance gets one turn, in the order of the distances. -/
theorem exists_turns_build (inside : size.contains origin = true)
    (vacant : isBlocked origin = false) :
    let field := build size origin isBlocked
    ∃ visited, Visits isBlocked origin visited ⟨field, []⟩ ∧ visited.Nodup ∧
      (∀ cell, cell ∈ visited ↔ cell ∈ field.reach) ∧
      visited.Pairwise (fun cell later => field.label cell ≤ field.label later) ∧
      visited.length = field.reachableCount := by
  intro field
  obtain ⟨visited, visits⟩ := exists_visits_build inside vacant
  obtain ⟨nodup, mem_iff, ascending, -⟩ := visits.inOrder inside
  simp only [List.append_nil] at nodup mem_iff ascending
  have mem_reach (cell : Cell) : cell ∈ visited ↔ cell ∈ field.reach := by
    rw [mem_iff, mem_reach_iff]
  refine ⟨visited, visits, nodup, mem_reach, ascending, ?_⟩
  rw [field.reachableCount_eq_ncard, ncard_reach_eq_length nodup mem_reach]

end DistanceField
end GridWalk
