import GridWalk.Grid.CellMap
import GridWalk.Grid.Direction
import GridWalk.World.Basic

/-!
# Distance fields

The number of steps from an origin to every cell that can be reached over open cells. A cell that
is given a distance joins a queue, and when its turn comes it offers one step more to its
neighbours; an open neighbour takes what it is offered if that is less than what it has. Distances
are 32-bit numbers, the greatest of which stands for a cell without one and is not taken by any. The
entries fall with every cell that joins the queue, and so it runs empty.
-/

namespace GridWalk

/-- The steps from an origin to the cells of a grid. -/
structure DistanceField (size : GridSize) where
  /-- The distance of each cell, or the mark of a cell without one. -/
  distances : CellMap size UInt32
  deriving DecidableEq

namespace DistanceField

variable {size : GridSize}

/-- The number that no distance reaches. -/
def unreached : Nat := UInt32.size - 1

/-- The mark of a cell without a distance. -/
def mark : UInt32 := UInt32.ofNat unreached

/-- The field without any distance. -/
def empty (size : GridSize) : DistanceField size :=
  ⟨CellMap.replicate size mark⟩

/-- The distance of a cell, absent if it cannot be reached or lies outside the grid. -/
def distance? (field : DistanceField size) (cell : Cell) : Option Nat :=
  ((field.distances.get? cell).filter (· != mark)).map UInt32.toNat

/-- How many cells have a distance. -/
def reachableCount (field : DistanceField size) : Nat :=
  field.distances.count (· != mark)

/-- The distance of one step more; there is none behind the mark. -/
def further (distance : UInt32) : UInt32 :=
  if distance = mark then mark else distance + 1

/-- A field that is being filled. -/
structure Flood (size : GridSize) where
  /-- The distances so far. -/
  field : DistanceField size
  /-- The cells whose neighbours are still to be offered a distance, the next first. -/
  queue : List Cell

namespace Flood

/-- The field in which the origin alone has a distance. -/
def start (size : GridSize) (origin : Cell) : Flood size :=
  ⟨⟨(empty size).distances.set origin 0⟩, [origin]⟩

/-- Offers a distance to a cell. It takes it if it is open and has a greater one, and is then the
last of the queue. -/
def offer (isBlocked : Cell → Bool) (distance : UInt32) (flood : Flood size) (cell : Cell) :
    Flood size :=
  if isBlocked cell then
    flood
  else
    match flood.field.distances.get? cell with
    | none => flood
    | some known =>
        if known ≤ distance then
          flood
        else
          ⟨⟨flood.field.distances.set cell distance⟩, flood.queue ++ [cell]⟩

/-- Offers one step more than the distance of a cell to its neighbours, one after another. -/
def spread (isBlocked : Cell → Bool) (cell : Cell) (flood : Flood size) : Flood size :=
  match flood.field.distances.get? cell with
  | none => flood
  | some known =>
      (Direction.all.filterMap (·.step size cell)).foldl (offer isBlocked (further known)) flood

/-- The sum of all entries and the number of cells in the queue. -/
def backlog (flood : Flood size) : Nat :=
  flood.field.distances.total UInt32.toNat + flood.queue.length

theorem backlog_offer_le (isBlocked : Cell → Bool) (distance : UInt32) (flood : Flood size)
    (cell : Cell) : (flood.offer isBlocked distance cell).backlog ≤ flood.backlog := by
  unfold offer
  split
  · exact Nat.le_refl _
  · split
    · exact Nat.le_refl _
    · rename_i known present
      split
      · exact Nat.le_refl _
      · -- The entry falls by one at least, which pays for the cell in the queue.
        rename_i greater
        rw [UInt32.le_iff_toNat_le, Nat.not_le] at greater
        have summed := CellMap.total_set UInt32.toNat distance present
        simp only [backlog, List.length_append, List.length_singleton]
        omega

theorem backlog_spread_le (isBlocked : Cell → Bool) (cell : Cell) (flood : Flood size) :
    (flood.spread isBlocked cell).backlog ≤ flood.backlog := by
  unfold spread
  split
  · exact Nat.le_refl _
  · rename_i known present
    generalize Direction.all.filterMap (·.step size cell) = neighbours
    clear present
    induction neighbours generalizing flood with
    | nil => exact Nat.le_refl _
    | cons first neighbours induction =>
        exact Nat.le_trans (induction _) (backlog_offer_le isBlocked _ flood first)

/-- Takes the cells out of the queue one after another until none is left. -/
def run (isBlocked : Cell → Bool) (flood : Flood size) : DistanceField size :=
  match flood with
  | ⟨field, []⟩ => field
  | ⟨field, cell :: rest⟩ => run isBlocked (spread isBlocked cell ⟨field, rest⟩)
termination_by flood.backlog
decreasing_by
  have spread_le := backlog_spread_le isBlocked cell ⟨field, rest⟩
  simp only [backlog, List.length_cons] at spread_le ⊢
  omega

end Flood

/-- The field of all cells that can be reached from `origin`; from outside the grid and from a
blocked cell there are none. -/
def build (size : GridSize) (origin : Cell) (isBlocked : Cell → Bool) : DistanceField size :=
  if !size.contains origin || isBlocked origin then
    empty size
  else
    (Flood.start size origin).run isBlocked

end DistanceField

/-- The distances from a cell over the open cells of the world. -/
def World.distanceField (world : World) (origin : Cell) : DistanceField world.size :=
  DistanceField.build world.size origin world.isBlocked

end GridWalk
