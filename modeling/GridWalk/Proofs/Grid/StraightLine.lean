import GridWalk.Grid.Cell
import GridWalk.Proofs.Number.Accuracy
import Mathlib.Analysis.Complex.Norm

/-!
# Straight lines between cells

The straight-line distance as a real number, and how far the estimates of a search are from the real
numbers they stand for. Rounding never makes up for the two steps that a cell lies farther from the
start than a diagonal neighbour.
-/

namespace GridWalk

variable {near far goal : Cell} {count : ℕ}

namespace Cell

theorem gap_lt (left right : UInt32) : gap left right < 2 ^ 32 := by
  have left_lt := left.toNat_lt
  have right_lt := right.toNat_lt
  rw [gap]
  omega

theorem steps_le (cell other : Cell) : cell.steps other ≤ 2 ^ 33 := by
  have columns_lt := gap_lt cell.column other.column
  have rows_lt := gap_lt cell.row other.row
  rw [steps]
  omega

theorem cast_gap_sq (left right : UInt32) :
    (gap left right : ℝ) ^ 2 = ((left.toNat : ℝ) - right.toNat) ^ 2 := by
  rcases Nat.le_total left.toNat right.toNat with le | le
  · rw [gap, Nat.sub_eq_zero_of_le le, Nat.zero_add, Nat.cast_sub le]
    ring
  · rw [gap, Nat.sub_eq_zero_of_le le, Nat.add_zero, Nat.cast_sub le]

/-- The length of the straight line between two cells. -/
noncomputable def straightLine (cell other : Cell) : ℝ :=
  √(gap cell.column other.column ^ 2 + gap cell.row other.row ^ 2)

/-- The cell as a point of the plane. -/
def point (cell : Cell) : ℂ := ⟨cell.column.toNat, cell.row.toNat⟩

theorem straightLine_eq_norm (cell other : Cell) :
    cell.straightLine other = ‖cell.point - other.point‖ := by
  rw [straightLine, Complex.norm_eq_sqrt_sq_add_sq, cast_gap_sq, cast_gap_sq]
  rfl

theorem straightLine_le_add (cell between other : Cell) :
    cell.straightLine other ≤ cell.straightLine between + between.straightLine other := by
  simp only [straightLine_eq_norm]
  exact norm_sub_le_norm_sub_add_norm_sub _ _ _

theorem straightLine_le (cell other : Cell) : cell.straightLine other ≤ 2 ^ 33 := by
  have columns_lt : (gap cell.column other.column : ℝ) < 2 ^ 32 := mod_cast gap_lt _ _
  have rows_lt : (gap cell.row other.row : ℝ) < 2 ^ 32 := mod_cast gap_lt _ _
  refine Real.sqrt_le_iff.mpr ⟨by positivity, ?_⟩
  have columns_sq := pow_le_pow_left₀ (Nat.cast_nonneg _) columns_lt.le 2
  have rows_sq := pow_le_pow_left₀ (Nat.cast_nonneg _) rows_lt.le 2
  linarith

/-- The straight line to a diagonal neighbour. -/
theorem straightLine_diagonal (columns : gap near.column far.column = 1)
    (rows : gap near.row far.row = 1) : near.straightLine far ≤ 3 / 2 := by
  rw [straightLine, columns, rows]
  refine Real.sqrt_le_iff.mpr ⟨by norm_num, by norm_num⟩

end Cell

/-! ## Estimates -/

open Cell

theorem abs_estimate_sub_le (small : count ≤ 2 ^ 33) (cell goal : Cell) :
    |(Length.ofNat count + cell.euclidean goal).value - (count + cell.straightLine goal)| ≤
      1 / 10 := by
  have count_le : (count : ℝ) ≤ 2 ^ 33 := mod_cast small
  have line_le := cell.straightLine_le goal
  have count_rounded := Length.abs_ofNat_sub_le count
  have line_rounded := Length.abs_hypotenuse_sub_le (gap cell.column goal.column)
    (gap cell.row goal.row)
  have sum_rounded := Length.abs_add_sub_le (Length.ofNat count) (cell.euclidean goal)
  rw [← euclidean, ← straightLine] at line_rounded
  rw [abs_le] at *
  constructor <;> linarith

/-- Two steps count for more than what a diagonal neighbour may be nearer to the goal. -/
theorem not_estimate_le (columns : gap near.column far.column = 1)
    (rows : gap near.row far.row = 1) (small : count + 2 ≤ 2 ^ 33) (goal : Cell) :
    ¬ Length.ofNat (count + 2) + far.euclidean goal ≤ Length.ofNat count + near.euclidean goal := by
  intro le
  have value_le := Length.value_le_value_iff.mpr le
  have far_close := abs_estimate_sub_le small far goal
  have near_close := abs_estimate_sub_le (Nat.le_of_add_right_le small) near goal
  have diagonal := near.straightLine_le_add far goal
  have diagonal_le := straightLine_diagonal columns rows
  push_cast at far_close
  rw [abs_le] at far_close near_close
  linarith

end GridWalk
