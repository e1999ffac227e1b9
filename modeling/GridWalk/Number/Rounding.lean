/-!
# Rounding to significant bits

A quotient of natural numbers is rounded to the nearest natural number, a tie going to the even
neighbour. Rounding to a number of significant bits is the same rule on a coarser grid, whose step
is the power of two that leaves that many bits.
-/

namespace GridWalk.Rounding

/-- The natural number nearest to `numerator / denominator`; a tie goes to the even neighbour. -/
def nearestEven (numerator denominator : Nat) : Nat :=
  let quotient := numerator / denominator
  let remainder := numerator % denominator
  if denominator < 2 * remainder ∨ (2 * remainder = denominator ∧ quotient % 2 = 1) then
    quotient + 1
  else
    quotient

/-- The power of two by which a grid of `precision` significant bits is coarser than the naturals
near `quotient`. -/
def excessBits (precision quotient : Nat) : Nat :=
  quotient.log2 + 1 - precision

/-- The quotient `numerator / denominator` rounded to a natural number of at most `precision`
significant bits. -/
def toSignificant (precision numerator denominator : Nat) : Nat :=
  let step := Nat.pow 2 (excessBits precision (numerator / denominator))
  nearestEven numerator (denominator * step) * step

/-! ## Exact cases and error bounds -/

@[simp]
theorem nearestEven_one (numerator : Nat) : nearestEven numerator 1 = numerator := by
  simp [nearestEven, Nat.mod_one]

/-- The rounded quotient is at most half a unit above the exact one. -/
theorem two_mul_nearestEven_mul_le {denominator : Nat} (denominator_pos : 0 < denominator)
    (numerator : Nat) :
    2 * (nearestEven numerator denominator * denominator) ≤ 2 * numerator + denominator := by
  have division := Nat.div_add_mod numerator denominator
  have remainder_lt := Nat.mod_lt numerator denominator_pos
  rw [Nat.mul_comm] at division
  unfold nearestEven
  dsimp only
  split
  · rename_i upward
    rw [Nat.add_mul]
    omega
  · omega

/-- The rounded quotient is at most half a unit below the exact one. -/
theorem two_mul_le_nearestEven_mul {denominator : Nat} (denominator_pos : 0 < denominator)
    (numerator : Nat) :
    2 * numerator ≤ 2 * (nearestEven numerator denominator * denominator) + denominator := by
  have division := Nat.div_add_mod numerator denominator
  have remainder_lt := Nat.mod_lt numerator denominator_pos
  rw [Nat.mul_comm] at division
  unfold nearestEven
  dsimp only
  split
  · rw [Nat.add_mul]
    omega
  · rename_i downward
    omega

/-- Natural numbers that already fit in the precision are kept. -/
theorem toSignificant_of_lt {precision value : Nat} (value_lt : value < Nat.pow 2 precision) :
    toSignificant precision value 1 = value := by
  by_cases zero : value = 0
  · simp [toSignificant, nearestEven, zero]
  · have length_le := (Nat.log2_lt zero).mpr value_lt
    have excess : excessBits precision value = 0 := by
      unfold excessBits
      omega
    simp [toSignificant, excess]

end GridWalk.Rounding
