import GridWalk.Proofs.Grid.OpenStep
import GridWalk.World.DistanceField

/-!
# The distances of a distance field

An entry is the length of a route from the origin, and it is at most one more than the entry of any
neighbour that has left the queue. Every turn of the queue keeps both. When the queue is empty, no
route can be shorter than the entry of its end, so the entries are the lengths of the shortest
routes, as far as 32 bits can tell these from the mark of an unreached cell.
-/

namespace GridWalk
namespace DistanceField

variable {size : GridSize} {isBlocked : Cell → Bool} {origin cell other : Cell} {count : Nat}
  {cells : List Cell} {field : DistanceField size} {flood : Flood size} {distance : UInt32}

/-! ## Entries as numbers -/

/-- The entry of a cell as a number, which outside the grid is that of the mark. -/
def label (field : DistanceField size) (cell : Cell) : Nat :=
  ((field.distances.get? cell).getD mark).toNat

theorem toNat_mark : mark.toNat = unreached := by
  decide

theorem toNat_le_unreached (distance : UInt32) : distance.toNat ≤ unreached :=
  Nat.le_sub_one_of_lt distance.toNat_lt

theorem label_le_unreached (field : DistanceField size) (cell : Cell) :
    field.label cell ≤ unreached :=
  toNat_le_unreached _

/-- A step more is counted as long as it stays below the mark. -/
theorem toNat_further (distance : UInt32) :
    (further distance).toNat = min (distance.toNat + 1) unreached := by
  have bound := toNat_le_unreached distance
  rw [further]
  split
  · rename_i marked
    rw [marked, toNat_mark]
    omega
  · rename_i unmarked
    have below : distance.toNat ≠ unreached := by
      rw [← toNat_mark]
      exact fun same => unmarked (UInt32.toNat_inj.mp same)
    have size_eq : 2 ^ 32 = unreached + 1 := rfl
    rw [UInt32.toNat_add, UInt32.toNat_one, Nat.mod_eq_of_lt (by omega)]
    omega

/-- The distance of a cell is its entry, unless that is the mark. -/
theorem distance?_eq_some_iff :
    field.distance? cell = some count ↔ field.label cell = count ∧ count < unreached := by
  rw [distance?, label]
  cases field.distances.get? cell with
  | none =>
      rw [Option.getD_none, toNat_mark]
      refine iff_of_false (Option.some_ne_none count).symm ?_
      rintro ⟨rfl, below⟩
      exact Nat.lt_irrefl _ below
  | some entry =>
      have bound := toNat_le_unreached entry
      have mark_iff : entry = mark ↔ entry.toNat = unreached := by
        rw [← toNat_mark, UInt32.toNat_inj]
      simp only [Option.getD_some, Option.map_eq_some_iff, Option.filter_eq_some_iff,
        Option.some.injEq, bne_iff_ne, ne_eq]
      constructor
      · rintro ⟨_, ⟨rfl, unmarked⟩, rfl⟩
        exact ⟨rfl, Nat.lt_of_le_of_ne bound (mt mark_iff.mpr unmarked)⟩
      · rintro ⟨rfl, below⟩
        exact ⟨entry, ⟨rfl, mt mark_iff.mp (Nat.ne_of_lt below)⟩, rfl⟩

theorem label_empty : (empty size).label cell = unreached := by
  rw [label, empty, CellMap.get?_replicate]
  split <;> exact toNat_mark

theorem distance?_empty : (empty size).distance? cell = none := by
  rw [distance?, empty, CellMap.get?_replicate]
  split <;> rfl

theorem label_set (inside : size.contains cell = true) :
    label ⟨field.distances.set cell distance⟩ other =
      if other = cell then distance.toNat else field.label other := by
  rw [label, CellMap.get?_set]
  by_cases same : other = cell
  · rw [if_pos ⟨same.symm, inside⟩, if_pos same, Option.getD_some]
  · rw [if_neg (fun both => same both.1.symm), if_neg same, label]

theorem label_start (inside : size.contains origin = true) :
    (Flood.start size origin).field.label cell = if cell = origin then 0 else unreached := by
  rw [Flood.start, label_set inside, label_empty, UInt32.toNat_zero]

/-! ## One offer -/

/-- A cell takes a distance that it is offered: it is open and has a greater one. -/
def Takes (isBlocked : Cell → Bool) (distance : UInt32) (field : DistanceField size) (cell : Cell) :
    Prop :=
  isBlocked cell = false ∧ distance.toNat < field.label cell

instance : Decidable (Takes isBlocked distance field cell) :=
  inferInstanceAs (Decidable (_ ∧ _))

namespace Flood

theorem offer_eq (inside : size.contains cell = true) :
    flood.offer isBlocked distance cell =
      if Takes isBlocked distance flood.field cell then
        ⟨⟨flood.field.distances.set cell distance⟩, flood.queue ++ [cell]⟩
      else
        flood := by
  cases present : flood.field.distances.get? cell with
  | none =>
      rw [CellMap.get?_eq_none_iff.mp present] at inside
      cases inside
  | some known =>
      have label_eq : flood.field.label cell = known.toNat := by
        rw [label, present, Option.getD_some]
      simp only [offer, present, Takes, label_eq]
      cases isBlocked cell with
      | true => simp
      | false => simp only [Bool.false_eq_true, if_false, true_and, UInt32.le_iff_toNat_le,
          ← Nat.not_lt, ite_not]

theorem label_offer (inside : size.contains cell = true) :
    (flood.offer isBlocked distance cell).field.label other =
      if other = cell ∧ Takes isBlocked distance flood.field other then distance.toNat
      else flood.field.label other := by
  rw [offer_eq inside]
  by_cases takes : Takes isBlocked distance flood.field cell
  · rw [if_pos takes, label_set inside]
    by_cases same : other = cell
    · subst same
      rw [if_pos rfl, if_pos ⟨rfl, takes⟩]
    · rw [if_neg same, if_neg (fun both => same both.1)]
  · rw [if_neg takes, if_neg]
    rintro ⟨rfl, taken⟩
    exact takes taken

/-- A distance is offered to a cell with effect only once. -/
theorem takes_offer (inside : size.contains cell = true) :
    Takes isBlocked distance (flood.offer isBlocked distance cell).field other ↔
      other ≠ cell ∧ Takes isBlocked distance flood.field other := by
  rw [Takes, label_offer inside]
  by_cases takes : Takes isBlocked distance flood.field other
  · by_cases same : other = cell
    · rw [if_pos ⟨same, takes⟩]
      simp [same]
    · rw [if_neg (fun both => same both.1)]
      exact iff_of_true takes ⟨same, takes⟩
  · rw [if_neg (fun both => takes both.2)]
    exact iff_of_false takes (fun both => takes both.2)

/-- Cells of the grid that are offered a distance one after another have it if they take it. -/
theorem label_foldl_offer (inside : ∀ cell ∈ cells, size.contains cell = true) :
    (cells.foldl (offer isBlocked distance) flood).field.label other =
      if other ∈ cells ∧ Takes isBlocked distance flood.field other then distance.toNat
      else flood.field.label other := by
  induction cells generalizing flood with
  | nil => simp
  | cons first cells induction =>
      rw [List.forall_mem_cons] at inside
      rw [List.foldl_cons, induction inside.2, label_offer inside.1]
      simp only [takes_offer inside.1, List.mem_cons]
      by_cases same : other = first <;> simp [same]

/-- Those that take it join the queue, once each. -/
theorem queue_foldl_offer (isBlocked : Cell → Bool) (distance : UInt32) (flood : Flood size)
    (inside : ∀ cell ∈ cells, size.contains cell = true) :
    ∃ joined, (cells.foldl (offer isBlocked distance) flood).queue = flood.queue ++ joined ∧
      joined.Nodup ∧
      ∀ other, other ∈ joined ↔ other ∈ cells ∧ Takes isBlocked distance flood.field other := by
  induction cells generalizing flood with
  | nil => exact ⟨[], by simp⟩
  | cons first cells induction =>
      rw [List.forall_mem_cons] at inside
      obtain ⟨joined, queue_eq, nodup, mem_joined⟩ :=
        induction (flood.offer isBlocked distance first) inside.2
      simp only [takes_offer inside.1] at mem_joined
      rw [List.foldl_cons, queue_eq, offer_eq inside.1]
      by_cases takes : Takes isBlocked distance flood.field first
      · refine ⟨first :: joined, ?_, List.nodup_cons.mpr ⟨?_, nodup⟩, ?_⟩
        · rw [if_pos takes, List.append_assoc, List.singleton_append]
        · rw [mem_joined]
          exact fun member => member.2.1 rfl
        · intro other
          rw [List.mem_cons, mem_joined, List.mem_cons]
          by_cases same : other = first
          · simp [same, takes]
          · simp [same]
      · refine ⟨joined, by rw [if_neg takes], nodup, ?_⟩
        intro other
        rw [mem_joined, List.mem_cons]
        by_cases same : other = first
        · simp [same, takes]
        · simp [same]

/-! ## One turn -/

/-- No entry is greater than the mark, so no cell takes it. -/
theorem offer_mark : flood.offer isBlocked mark cell = flood := by
  rw [offer]
  split
  · rfl
  · split
    · rfl
    · rename_i known _
      rw [if_pos (UInt32.le_iff_toNat_le.mpr (toNat_le_unreached known))]

/-- A cell outside the grid offers the mark. -/
theorem spread_eq :
    flood.spread isBlocked cell =
      (Direction.all.filterMap (·.step size cell)).foldl
        (offer isBlocked (further ((flood.field.distances.get? cell).getD mark))) flood := by
  rw [spread]
  cases flood.field.distances.get? cell with
  | none => exact (List.foldl_fixed' (fun _ => offer_mark) _).symm
  | some known => rfl

/-- The way to a cell is shorter by a step from another. -/
def Improves (isBlocked : Cell → Bool) (field : DistanceField size) (cell other : Cell) : Prop :=
  OpenStep size isBlocked cell other ∧ field.label cell + 1 < field.label other

instance : Decidable (Improves isBlocked field cell other) :=
  inferInstanceAs (Decidable (_ ∧ _))

theorem takes_further_iff :
    other ∈ Direction.all.filterMap (·.step size cell) ∧
        Takes isBlocked (further ((field.distances.get? cell).getD mark)) field other ↔
      Improves isBlocked field cell other := by
  have bound := field.label_le_unreached other
  rw [Direction.mem_filterMap_step, Takes, toNat_further, ← label, ← and_assoc]
  apply and_congr_right'
  omega

theorem label_spread :
    (flood.spread isBlocked cell).field.label other =
      if Improves isBlocked flood.field cell other then flood.field.label cell + 1
      else flood.field.label other := by
  rw [spread_eq, label_foldl_offer (Direction.contains_of_mem_filterMap_step size cell)]
  simp only [takes_further_iff]
  apply ite_congr rfl _ fun _ => rfl
  intro improves
  have bound := flood.field.label_le_unreached other
  have less := improves.2
  rw [toNat_further, ← label]
  omega

theorem queue_spread (isBlocked : Cell → Bool) (cell : Cell) (flood : Flood size) :
    ∃ joined, (flood.spread isBlocked cell).queue = flood.queue ++ joined ∧ joined.Nodup ∧
      ∀ other, other ∈ joined ↔ Improves isBlocked flood.field cell other := by
  rw [spread_eq]
  obtain ⟨joined, queue_eq, nodup, mem_joined⟩ :=
    queue_foldl_offer isBlocked (further ((flood.field.distances.get? cell).getD mark)) flood
      (Direction.contains_of_mem_filterMap_step size cell)
  exact ⟨joined, queue_eq, nodup, fun other => (mem_joined other).trans takes_further_iff⟩

/-- The floods that turns lead to, with the cells that have had a turn. -/
inductive Visits (isBlocked : Cell → Bool) (origin : Cell) : List Cell → Flood size → Prop
  /-- At first the origin waits for its turn. -/
  | start : Visits isBlocked origin [] (Flood.start size origin)
  /-- The front of the queue has its turn. -/
  | turn {visited rest : List Cell} {cell : Cell} {field : DistanceField size}
      (visits : Visits isBlocked origin visited ⟨field, cell :: rest⟩) :
      Visits isBlocked origin (visited ++ [cell]) (spread isBlocked cell ⟨field, rest⟩)

/-- Turns follow until the queue is empty. -/
theorem Visits.exists_run {visited : List Cell} (visits : Visits isBlocked origin visited flood) :
    ∃ all, Visits isBlocked origin all ⟨flood.run isBlocked, []⟩ := by
  fun_induction run isBlocked flood generalizing visited with
  | case1 field => exact ⟨visited, visits⟩
  | case2 field cell rest induction => exact induction visits.turn

/-! ## Lengths of routes -/

/-- Entries are lengths of routes, and only the neighbours of a cell that is in the queue may have
to be told of a shorter one. -/
structure Consistent (isBlocked : Cell → Bool) (origin : Cell) (flood : Flood size) : Prop where
  /-- The origin is no step away from itself. -/
  label_origin : flood.field.label origin = 0
  /-- A distance is the length of a route. -/
  mem_routeLengths : ∀ cell, flood.field.label cell < unreached →
    flood.field.label cell ∈ routeLengths size isBlocked origin cell
  /-- Out of the queue every step has been offered. -/
  label_next_le : ∀ cell ∉ flood.queue, ∀ next, OpenStep size isBlocked cell next →
    flood.field.label next ≤ flood.field.label cell + 1

namespace Consistent

theorem start (inside : size.contains origin = true) :
    Consistent isBlocked origin (Flood.start size origin) := by
  constructor
  · rw [label_start inside, if_pos rfl]
  · intro cell known
    rw [label_start inside] at known ⊢
    split at known
    · rename_i same
      rw [if_pos same]
      exact zero_mem_routeLengths.mpr same.symm
    · exact absurd known (Nat.lt_irrefl _)
  · intro cell waits next _
    have missing : (Flood.start size origin).field.label cell = unreached := by
      rw [label_start inside, if_neg (List.ne_of_not_mem_cons waits)]
    rw [missing]
    exact Nat.le_succ_of_le (label_le_unreached _ next)

/-- A turn takes a cell out of the queue and keeps the rest consistent. -/
theorem spread {rest : List Cell}
    (consistent : Consistent isBlocked origin ⟨field, cell :: rest⟩) :
    Consistent isBlocked origin (Flood.spread isBlocked cell ⟨field, rest⟩) := by
  obtain ⟨label_origin, mem_routeLengths, label_next_le⟩ := consistent
  obtain ⟨joined, queue_eq, -, mem_joined⟩ := queue_spread isBlocked cell ⟨field, rest⟩
  simp only at label_origin mem_routeLengths label_next_le mem_joined
  constructor
  · rw [label_spread, label_origin, if_neg]
    intro improves
    exact Nat.not_lt_zero _ (label_origin ▸ improves.2)
  · intro other
    rw [label_spread]
    split
    · rename_i improves
      intro below
      exact succ_mem_routeLengths.mpr ⟨cell, mem_routeLengths cell (Nat.lt_of_succ_lt below),
        improves.1⟩
    · exact mem_routeLengths other
  · -- A cell whose entry the turn lowers is in the queue, so the entry of `source` has stayed.
    intro source left next step
    rw [queue_eq, List.mem_append, not_or, mem_joined] at left
    rw [label_spread, label_spread, if_neg left.2]
    simp only
    by_cases same : source = cell
    · subst same
      split
      · exact Nat.le_refl _
      · rename_i kept
        exact Nat.not_lt.mp fun less => kept ⟨step, less⟩
    · have waits : source ∉ cell :: rest := List.not_mem_cons_of_ne_of_not_mem same left.1
      have next_le := label_next_le source waits next step
      split
      · rename_i improves
        exact Nat.le_trans (Nat.le_of_lt improves.2) next_le
      · exact next_le

/-- When nothing waits, no route is shorter than the entry of its end. -/
theorem label_le {field : DistanceField size} (consistent : Consistent isBlocked origin ⟨field, []⟩)
    (member : count ∈ routeLengths size isBlocked origin cell) : field.label cell ≤ count := by
  induction count generalizing cell with
  | zero =>
      obtain rfl := zero_mem_routeLengths.mp member
      exact Nat.le_of_eq consistent.label_origin
  | succ count induction =>
      obtain ⟨before, nearer, step⟩ := succ_mem_routeLengths.mp member
      have next_le := consistent.label_next_le before List.not_mem_nil cell step
      exact Nat.le_trans next_le (Nat.succ_le_succ (induction nearer))

/-- The distances are then the lengths of the shortest routes. -/
theorem distance?_eq_some_iff (consistent : Consistent isBlocked origin ⟨field, []⟩) :
    field.distance? cell = some count ↔
      IsLeast (routeLengths size isBlocked origin cell) count ∧ count < unreached := by
  rw [DistanceField.distance?_eq_some_iff]
  apply and_congr_left
  intro below
  constructor
  · rintro rfl
    exact ⟨consistent.mem_routeLengths cell below, fun _ member => consistent.label_le member⟩
  · intro isLeast
    have label_le := consistent.label_le isLeast.1
    have label_mem := consistent.mem_routeLengths cell (Nat.lt_of_le_of_lt label_le below)
    exact Nat.le_antisymm label_le (isLeast.2 label_mem)

end Consistent

theorem Visits.consistent {visited : List Cell} (inside : size.contains origin = true)
    (visits : Visits isBlocked origin visited flood) : Consistent isBlocked origin flood := by
  induction visits with
  | start => exact Consistent.start inside
  | turn _ consistent => exact consistent.spread

end Flood

/-- A field that is built from an open cell is what turns lead to. -/
theorem exists_visits_build (inside : size.contains origin = true)
    (vacant : isBlocked origin = false) :
    ∃ visited, Flood.Visits isBlocked origin visited ⟨build size origin isBlocked, []⟩ := by
  rw [build, inside, vacant]
  exact Flood.Visits.exists_run .start

/-- A field that is built from an open cell of the grid holds the lengths of shortest routes, as far
as they stay below the number that no distance reaches. -/
theorem distance?_build (inside : size.contains origin = true) (vacant : isBlocked origin = false) :
    (build size origin isBlocked).distance? cell = some count ↔
      IsLeast (routeLengths size isBlocked origin cell) count ∧ count < unreached := by
  obtain ⟨visited, visits⟩ := exists_visits_build inside vacant
  exact (visits.consistent inside).distance?_eq_some_iff

/-- On a grid whose cells 32 bits can count, the field holds the length of every shortest route. -/
theorem distance?_build_of_small (small : size.cellCount < UInt32.size)
    (inside : size.contains origin = true) (vacant : isBlocked origin = false) :
    (build size origin isBlocked).distance? cell = some count ↔
      IsLeast (routeLengths size isBlocked origin cell) count := by
  rw [distance?_build inside vacant, and_iff_left_iff_imp]
  intro isLeast
  have bound := isLeast_routeLengths_lt_cellCount inside isLeast
  exact Nat.lt_of_lt_of_le bound (Nat.le_sub_one_of_lt small)

/-- On such a grid only the cells that no route leads to have no distance. -/
theorem distance?_build_eq_none_iff (small : size.cellCount < UInt32.size)
    (inside : size.contains origin = true) (vacant : isBlocked origin = false) :
    (build size origin isBlocked).distance? cell = none ↔
      routeLengths size isBlocked origin cell = ∅ := by
  have exact_distance (count : Nat) : (build size origin isBlocked).distance? cell = some count ↔
      IsLeast (routeLengths size isBlocked origin cell) count :=
    distance?_build_of_small small inside vacant
  cases built : (build size origin isBlocked).distance? cell with
  | none =>
      refine iff_of_true rfl (Set.eq_empty_iff_forall_notMem.mpr ?_)
      intro count member
      obtain ⟨least, -, isLeast⟩ := exists_isLeast_routeLengths member
      have known := (exact_distance least).mpr isLeast
      rw [built] at known
      cases known
  | some count =>
      have isLeast := (exact_distance count).mp built
      refine iff_of_false (Option.some_ne_none count) ?_
      intro empty
      rw [empty] at isLeast
      exact isLeast.1

/-- A field that is built from a blocked cell or from outside the grid is empty. -/
theorem distance?_build_of_closed
    (closed : size.contains origin = false ∨ isBlocked origin = true) :
    (build size origin isBlocked).distance? cell = none := by
  rw [build, if_pos]
  · exact distance?_empty
  · rcases closed with outside | blocked
    · rw [outside]
      rfl
    · rw [blocked, Bool.or_true]

end DistanceField
end GridWalk
