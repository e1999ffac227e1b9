import GridWalk.Number.Rounding
import GridWalk.Number.SquareRoot

/-!
# Lengths in binary64 precision

Route costs are sums and square roots of whole numbers, so each is zero or at least one and a
binary64 number of that size is a whole number of units of `2⁻⁵²`. Counting the units makes sums
and comparisons exact statements about natural numbers; every operation rounds its exact result to
53 significant bits, a tie going to the even neighbour.
-/

namespace GridWalk

/-- A binary64 number that is zero or at least one. -/
structure Length where
  /-- The length as a number of units of `2⁻⁵²`. -/
  units : Nat
  deriving DecidableEq, Repr

namespace Length

/-- Significant bits of a length. -/
def precision : Nat := 53

/-- Units that make up the length one. -/
def unitsPerOne : Nat := Nat.pow 2 52

instance : LE Length := ⟨fun left right => left.units ≤ right.units⟩

instance (left right : Length) : Decidable (left ≤ right) :=
  inferInstanceAs (Decidable (left.units ≤ right.units))

/-- The whole number `value`, rounded to the precision of lengths. -/
def ofNat (value : Nat) : Length :=
  ⟨Rounding.toSignificant precision (value * unitsPerOne) 1⟩

/-- The rounded sum of two lengths. -/
def add (left right : Length) : Length :=
  ⟨Rounding.toSignificant precision (left.units + right.units) 1⟩

instance : Add Length := ⟨add⟩

/-- The rounded square root of a whole number.

The root is first taken to three more binary places with every further digit gathered in the last
one, which lies too far down to turn a rounding decision. -/
def sqrt (value : Nat) : Length :=
  let square := value * (4 * unitsPerOne) * (4 * unitsPerOne)
  let root := floorSqrt square
  let rest := if root * root = square then 0 else 1
  ⟨Rounding.toSignificant precision (2 * root + rest) 1 / 8⟩

/-- The straight-line length of a step of `across` columns and `down` rows, in the order the
rounded operations are applied: two squares, their sum, its root. -/
def hypotenuse (across down : Nat) : Length :=
  let square (side : Nat) := Rounding.toSignificant precision (side * side) 1
  sqrt (Rounding.toSignificant precision (square across + square down) 1)

/-! ## Order -/

theorem le_iff {left right : Length} : left ≤ right ↔ left.units ≤ right.units := Iff.rfl

theorem le_refl (length : Length) : length ≤ length := Nat.le_refl _

theorem le_trans {left middle right : Length} (left_le : left ≤ middle)
    (middle_le : middle ≤ right) : left ≤ right :=
  Nat.le_trans left_le middle_le

theorem le_total (left right : Length) : left ≤ right ∨ right ≤ left :=
  Nat.le_total _ _

theorem not_le {left right : Length} : ¬ left ≤ right ↔ left.units > right.units :=
  Nat.not_le

end Length

end GridWalk
