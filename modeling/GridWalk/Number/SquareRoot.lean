/-!
# Integer square roots

The greatest natural number whose square does not exceed a given one, by Newton's method: guesses
from above fall until they are no longer above the root.
-/

namespace GridWalk

/-- The root of `value` by Newton's method from a guess. -/
def floorSqrtFrom (value guess : Nat) : Nat :=
  let next := (guess + value / guess) / 2
  if next < guess then floorSqrtFrom value next else guess
termination_by guess

/-- The greatest natural number whose square is at most `value`. -/
def floorSqrt (value : Nat) : Nat :=
  floorSqrtFrom value (1 <<< (value.log2 / 2 + 1))

/-! ## The two bounds -/

/-- Newton's method ends at a number that is not above the root. -/
theorem floorSqrtFrom_mul_self_le (value guess : Nat) :
    floorSqrtFrom value guess * floorSqrtFrom value guess ≤ value := by
  fun_induction floorSqrtFrom value guess with
  | case1 guess next falls induction => exact induction
  | case2 guess next stays =>
      rcases Nat.eq_zero_or_pos guess with rfl | positive
      · simp
      · exact (Nat.le_div_iff_mul_le positive).mp (by omega)

/-- Twice the geometric mean is at most the sum. -/
private theorem four_mul_le_add_mul_add (left right : Nat) :
    4 * (left * right) ≤ (left + right) * (left + right) := by
  rcases Nat.le_total left right with le | le
  · obtain ⟨gap, rfl⟩ := Nat.exists_eq_add_of_le le
    grind
  · obtain ⟨gap, rfl⟩ := Nat.exists_eq_add_of_le le
    grind

/-- A step of Newton's method does not fall below the root. -/
private theorem lt_newton_succ_mul_self (value : Nat) {guess : Nat} (positive : 0 < guess) :
    value < ((guess + value / guess) / 2 + 1) * ((guess + value / guess) / 2 + 1) := by
  have above : value < guess * (value / guess + 1) := Nat.lt_mul_div_succ value positive
  have mean := four_mul_le_add_mul_add guess (value / guess + 1)
  have sum_le : guess + (value / guess + 1) ≤ 2 * ((guess + value / guess) / 2 + 1) := by omega
  have squares := Nat.mul_le_mul sum_le sum_le
  rw [Nat.mul_mul_mul_comm 2 _ 2 _] at squares
  omega

/-- Newton's method from above the root ends at a number that is not below the root. -/
theorem lt_floorSqrtFrom_succ_mul_self {value guess : Nat} (positive : 0 < guess)
    (above : value < (guess + 1) * (guess + 1)) :
    value < (floorSqrtFrom value guess + 1) * (floorSqrtFrom value guess + 1) := by
  fun_induction floorSqrtFrom value guess with
  | case1 guess next falls induction =>
      have next_above := lt_newton_succ_mul_self value positive
      rcases Nat.eq_zero_or_pos next with zero | next_positive
      · rw [zero, floorSqrtFrom]
        simpa [next, zero] using next_above
      · exact induction next_positive next_above
  | case2 guess next stays => exact above

theorem floorSqrt_mul_self_le (value : Nat) : floorSqrt value * floorSqrt value ≤ value :=
  floorSqrtFrom_mul_self_le value _

theorem lt_floorSqrt_succ_mul_self (value : Nat) :
    value < (floorSqrt value + 1) * (floorSqrt value + 1) := by
  apply lt_floorSqrtFrom_succ_mul_self
  · rw [Nat.one_shiftLeft]
    exact Nat.two_pow_pos _
  · rw [Nat.one_shiftLeft]
    have below := Nat.lt_log2_self (n := value)
    have exponent_le : value.log2 + 1 ≤ (value.log2 / 2 + 1) + (value.log2 / 2 + 1) := by omega
    have power_le := Nat.pow_le_pow_right (n := 2) (by decide) exponent_le
    have succ_le := Nat.mul_le_mul (Nat.le_succ (2 ^ (value.log2 / 2 + 1)))
      (Nat.le_succ (2 ^ (value.log2 / 2 + 1)))
    rw [← Nat.pow_add] at succ_le
    exact Nat.lt_of_lt_of_le below (Nat.le_trans power_le succ_le)

end GridWalk
