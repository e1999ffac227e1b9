import GridWalk.Number.Length
import Mathlib.Analysis.Real.Sqrt
import Mathlib.Tactic.Linarith
import Mathlib.Tactic.Positivity
import Mathlib.Tactic.Ring

/-!
# Accuracy of lengths

How far a rounded operation on lengths is from the operation on real numbers. One rounding to 53
significant bits moves a number by at most a part in `2 ^ 53` of it; the bounds for sums, square
roots and straight lines are put together from that one.
-/

namespace GridWalk

/-! ## A single rounding -/

namespace Rounding

/-- A number that does not fit in the precision is at least so many half steps of its grid. -/
theorem two_pow_excessBits_mul_le {precision value : ℕ} (large : 2 ^ precision ≤ value) :
    2 ^ excessBits precision value * 2 ^ precision ≤ 2 * value := by
  have positive : value ≠ 0 := (Nat.two_pow_pos precision).trans_le large |>.ne'
  have precision_le : precision ≤ value.log2 := (Nat.le_log2 positive).mpr large
  calc
    2 ^ excessBits precision value * 2 ^ precision = 2 ^ (value.log2 + 1) := by
      rw [excessBits, ← pow_add, Nat.sub_add_cancel (by omega)]
    _ = 2 * 2 ^ value.log2 := pow_succ' 2 value.log2
    _ ≤ 2 * value := Nat.mul_le_mul_left 2 (Nat.log2_self_le positive)

theorem abs_toSignificant_sub_le (precision value : ℕ) :
    |(toSignificant precision value 1 : ℝ) - value| ≤ value / 2 ^ precision := by
  rcases Nat.lt_or_ge value (2 ^ precision) with small | large
  · rw [toSignificant_of_lt small, sub_self, abs_zero]
    positivity
  · have step_le := two_pow_excessBits_mul_le large
    have rounded_eq : toSignificant precision value 1 =
        nearestEven value (2 ^ excessBits precision value) * 2 ^ excessBits precision value := by
      simp [toSignificant]
    rw [rounded_eq]
    have step_pos : 0 < 2 ^ excessBits precision value := Nat.two_pow_pos _
    generalize 2 ^ excessBits precision value = step at *
    have above : (2 * (nearestEven value step * step : ℕ) : ℝ) ≤ 2 * value + step :=
      mod_cast two_mul_nearestEven_mul_le step_pos value
    have below : (2 * value : ℝ) ≤ 2 * (nearestEven value step * step : ℕ) + step :=
      mod_cast two_mul_le_nearestEven_mul step_pos value
    have half_step : (step : ℝ) / 2 ≤ value / 2 ^ precision := by
      rw [le_div_iff₀ (by positivity)]
      have : (step * 2 ^ precision : ℝ) ≤ 2 * value := mod_cast step_le
      linarith
    rw [abs_le]
    constructor <;> linarith

end Rounding

/-! ## Operations on lengths -/

namespace Length

/-- The real number that a length stands for. -/
noncomputable def value (length : Length) : ℝ :=
  length.units / 2 ^ 52

theorem value_le_value_iff {left right : Length} : left.value ≤ right.value ↔ left ≤ right := by
  rw [value, value, div_le_div_iff_of_pos_right (by positivity), Nat.cast_le, le_iff]

theorem abs_round_sub_le (units : ℕ) :
    |value ⟨Rounding.toSignificant precision units 1⟩ - value ⟨units⟩| ≤
      value ⟨units⟩ / 2 ^ 53 := by
  have rounded := Rounding.abs_toSignificant_sub_le precision units
  rw [value, value, ← sub_div, abs_div, abs_of_pos (by positivity : (0 : ℝ) < 2 ^ 52),
    div_right_comm]
  exact div_le_div_of_nonneg_right rounded (by positivity)

theorem abs_ofNat_sub_le (number : ℕ) : |(ofNat number).value - number| ≤ number / 2 ^ 53 := by
  have rounded := abs_round_sub_le (number * 2 ^ 52)
  have exact_value : value ⟨number * 2 ^ 52⟩ = number := by
    rw [value]
    push_cast
    ring
  rwa [exact_value] at rounded

theorem abs_add_sub_le (left right : Length) :
    |(left + right).value - (left.value + right.value)| ≤ (left.value + right.value) / 2 ^ 53 := by
  have rounded := abs_round_sub_le (left.units + right.units)
  have exact_value : value ⟨left.units + right.units⟩ = left.value + right.value := by
    rw [value]
    push_cast
    exact add_div _ _ _
  rwa [exact_value] at rounded

/-! ## Square roots -/

theorem floorSqrt_eq_sqrt (number : ℕ) : floorSqrt number = Nat.sqrt number :=
  Nat.eq_sqrt.mpr ⟨floorSqrt_mul_self_le number, lt_floorSqrt_succ_mul_self number⟩

/-- The root that is rounded has 55 binary places, and its last place says whether anything was cut
off, so it is off by less than that place. -/
theorem exists_places (number : ℕ) :
    ∃ places : ℕ, (sqrt number).units = Rounding.toSignificant precision places 1 / 8 ∧
      |places - 2 ^ 55 * √number| ≤ 1 := by
  refine ⟨_, rfl, ?_⟩
  have scaled : ((number * (4 * unitsPerOne) * (4 * unitsPerOne) : ℕ) : ℝ) =
      (2 ^ 54) ^ 2 * number := by
    rw [show 4 * unitsPerOne = 2 ^ 54 from rfl]
    push_cast
    ring
  generalize number * (4 * unitsPerOne) * (4 * unitsPerOne) = square at *
  have root_eq : √(square : ℝ) = 2 ^ 54 * √number := by
    rw [scaled, Real.sqrt_mul (by positivity), Real.sqrt_sq (by positivity)]
  have below := Real.nat_sqrt_le_real_sqrt (a := square)
  have above := Real.real_sqrt_lt_nat_sqrt_succ (a := square)
  rw [← floorSqrt_eq_sqrt, root_eq] at below above
  rw [abs_le]
  -- Twice the root is exact if nothing was cut off; otherwise the true value lies within the two
  -- numbers next to the odd one that is taken.
  split
  · rename_i whole
    have exact_root : 2 ^ 54 * √number = floorSqrt square := by
      rw [← root_eq, ← Real.sqrt_mul_self (floorSqrt square).cast_nonneg]
      exact_mod_cast congrArg (fun square : ℕ => √(square : ℝ)) whole.symm
    push_cast
    constructor <;> linarith
  · push_cast
    constructor <;> linarith

theorem abs_sqrt_sub_le (number : ℕ) :
    |(sqrt number).value - √number| ≤ (√number + 4) / 2 ^ 53 := by
  obtain ⟨places, units_eq, taken⟩ := exists_places number
  have rounded := Rounding.abs_toSignificant_sub_le precision places
  rw [value, units_eq]
  generalize Rounding.toSignificant precision places 1 = units at *
  have cut_le : (8 * (units / 8 : ℕ) : ℝ) ≤ units := mod_cast Nat.mul_div_le units 8
  have le_cut : (units : ℝ) ≤ 8 * (units / 8 : ℕ) + 7 := mod_cast (by omega)
  rw [precision] at rounded
  rw [abs_le] at *
  constructor <;> linarith

/-- Roots of numbers that differ by a small part differ by no greater part. -/
theorem abs_sqrt_sub_sqrt_le {x y part : ℝ} (x_nonneg : 0 ≤ x) (y_nonneg : 0 ≤ y)
    (close : |x - y| ≤ part * y) : |√x - √y| ≤ part * √y := by
  rcases y_nonneg.eq_or_lt with rfl | y_pos
  · have x_eq : x = 0 := by simpa using close
    simp [x_eq]
  · have root_pos : 0 < √y := Real.sqrt_pos.mpr y_pos
    refine le_of_mul_le_mul_right ?_ root_pos
    calc
      |√x - √y| * √y ≤ |√x - √y| * |√x + √y| := by
        refine mul_le_mul_of_nonneg_left ?_ (abs_nonneg _)
        exact (le_add_of_nonneg_left (Real.sqrt_nonneg x)).trans (le_abs_self _)
      _ = |x - y| := by
        rw [← abs_mul, mul_comm, ← mul_self_sub_mul_self, Real.mul_self_sqrt x_nonneg,
          Real.mul_self_sqrt y_nonneg]
      _ ≤ part * y := close
      _ = part * √y * √y := by rw [mul_assoc, Real.mul_self_sqrt y_nonneg]

theorem abs_hypotenuse_sub_le (across down : ℕ) :
    |(hypotenuse across down).value - √(across ^ 2 + down ^ 2)| ≤
      (√(across ^ 2 + down ^ 2) + 1) / 2 ^ 50 := by
  have across_rounded := Rounding.abs_toSignificant_sub_le precision (across * across)
  have down_rounded := Rounding.abs_toSignificant_sub_le precision (down * down)
  rw [hypotenuse]
  dsimp only
  generalize Rounding.toSignificant precision (across * across) 1 = columns at *
  generalize Rounding.toSignificant precision (down * down) 1 = rows at *
  have sum_rounded := Rounding.abs_toSignificant_sub_le precision (columns + rows)
  generalize Rounding.toSignificant precision (columns + rows) 1 = sum at *
  have close : |(sum : ℝ) - (across ^ 2 + down ^ 2)| ≤ 1 / 2 ^ 51 * (across ^ 2 + down ^ 2) := by
    rw [precision] at *
    push_cast at *
    rw [abs_le] at *
    constructor <;> linarith
  have root_close := abs_sqrt_sub_sqrt_le sum.cast_nonneg (by positivity) close
  have root_rounded := abs_sqrt_sub_le sum
  rw [abs_le] at *
  constructor <;> linarith

end Length

end GridWalk
