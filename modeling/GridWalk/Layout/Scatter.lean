import GridWalk.Layout.Basic
import GridWalk.Random.ChaCha

/-!
# Scattered layouts

Walls drawn at random, one draw for each cell in row-major order. Cells that are to stay open are
drawn for all the same, so they do not change the other walls.
-/

namespace GridWalk

/-- A chance between zero and one, as the number of 64-bit numbers that are hits. -/
inductive Chance where
  /-- Every draw is a hit, and none is needed to know. -/
  | certain
  /-- A draw below `hits` is a hit. -/
  | below (hits : Nat)
  deriving DecidableEq, Repr

namespace Chance

/-- The chance that a 64-bit binary number states, if it lies between zero and one. -/
def ofDensity? (density : Binary64) : Option Chance :=
  match density.value with
  | .finite negative units =>
      if units = BinaryFormat.double.one ∧ negative = false then some certain
      else if units = 0 ∨ (units < BinaryFormat.double.one ∧ negative = false) then
        some (below (units * UInt64.size / BinaryFormat.double.one))
      else none
  | _ => none

/-- Draws from a stream whether there is a hit. -/
def draw (chance : Chance) (stream : ChaCha.Stream) : Bool × ChaCha.Stream :=
  match chance with
  | certain => (true, stream)
  | below hits =>
      let (number, stream) := stream.nextLong
      (number < hits, stream)

end Chance

namespace Layout

/-- Draws for a cell and puts a wall there on a hit, unless the cell is to stay open. -/
def scatterCell {γ : Type} {size : GridSize} (draw : γ → Bool × γ) (staysOpen : Cell → Bool)
    (state : CellMap size Bool × γ) (cell : Cell) : CellMap size Bool × γ :=
  let (walls, source) := state
  let (hit, source) := draw source
  (if staysOpen cell then walls else walls.set cell hit, source)

/-- The walls that a source of draws scatters over a grid. -/
def scatterWalls {γ : Type} (draw : γ → Bool × γ) (source : γ) (size : GridSize)
    (staysOpen : Cell → Bool) : CellMap size Bool :=
  (size.cells.foldl (scatterCell draw staysOpen) (CellMap.replicate size false, source)).1

/-- A layout that starts at the origin, with walls scattered over the cells other than the origin
and those in `keepClear`. -/
def scatter {γ : Type} (draw : γ → Bool × γ) (source : γ) (size : GridSize)
    (keepClear : List Cell) : Layout :=
  let staysOpen (cell : Cell) := cell = Cell.origin || keepClear.contains cell
  { plain size with
    walls := scatterWalls draw source size staysOpen
    start := some Cell.origin }

/-- A layout with walls scattered at the given density by the generator with the given seed. -/
def scattered (size : GridSize) (density : Binary64) (seed : UInt64) (keepClear : List Cell) :
    Except LayoutError Layout :=
  match Chance.ofDensity? density with
  | none => .error (.invalidDensity density)
  | some chance => .ok (scatter chance.draw (ChaCha.Stream.ofSeed seed) size keepClear)

end Layout

end GridWalk
