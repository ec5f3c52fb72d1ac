/-
Levels in exact numbers. Read over the rationals, a level is the ramp over the span bent by the curve, with no rounding; both curves
lie between 0 and 1, and go up with their argument. The ease is flat at both ends and steepest in the middle, with a slope of 3/2.

- `apply_mono`: a curve never falls.
- `apply_lt`, `apply_sub_le`: between 0 and 1 it climbs, and no faster than its steepest slope.
- `level_mono`: of two clocks of one timing, the one with the larger ramp has no lower level.
- `level_lt`, `level_sub_le`: as long as ramps end at the span, it has a higher one, and by how much at most.
-/
import Mathlib.Tactic
import Stagecraft.Proofs.Clock.Settle

namespace Stagecraft

/-- exact numbers -/
instance : Scalar ℚ where
  ofNat n := n
  abs x := |x|
  isZero x := x = 0
  decLt := inferInstance
  decLe := inferInstance

namespace Curve

theorem clampUnit_eq (x : ℚ) : clampUnit x = max 0 (min x 1) := by
  have h0 : (Scalar.ofNat 0 : ℚ) = 0 := Nat.cast_zero
  have h1 : (Scalar.ofNat 1 : ℚ) = 1 := Nat.cast_one
  unfold clampUnit
  rw [h0, h1]
  split_ifs with hlow hhigh
  · rw [min_eq_left (hlow.le.trans zero_le_one), max_eq_left hlow.le]
  · rw [min_eq_right hhigh.le, max_eq_right zero_le_one]
  · rw [min_eq_left (not_lt.1 hhigh), max_eq_right (not_lt.1 hlow)]

theorem clampUnit_bounds (x : ℚ) : 0 ≤ clampUnit x ∧ clampUnit x ≤ 1 := by
  rw [clampUnit_eq]
  exact ⟨le_max_left _ _, max_le zero_le_one (min_le_right _ _)⟩

theorem clampUnit_mono {x y : ℚ} (h : x ≤ y) : clampUnit x ≤ clampUnit y := by
  rw [clampUnit_eq, clampUnit_eq]
  exact max_le_max_left 0 (min_le_min_right 1 h)

theorem clampUnit_of_unit {x : ℚ} (h0 : 0 ≤ x) (h1 : x ≤ 1) : clampUnit x = x := by
  rw [clampUnit_eq, min_eq_left h1, max_eq_right h0]

/-- the slope of the ease from one argument to another -/
def chord (x y : ℚ) : ℚ := 3 * (x + y) - 2 * (x * x + x * y + y * y)

theorem smooth_sub (x y : ℚ) : y * y * (3 - 2 * y) - x * x * (3 - 2 * x) = (y - x) * chord x y := by
  unfold chord
  ring

theorem chord_pos {x y : ℚ} (hx : 0 ≤ x) (hxy : x < y) (hy : y ≤ 1) : 0 < chord x y := by
  have hx1 : x ≤ 1 := hxy.le.trans hy
  have hxx : x * x ≤ x := mul_le_of_le_one_left hx hx1
  have hxy' : x * y ≤ x := mul_le_of_le_one_right hx hy
  have hyy : y * y ≤ y := mul_le_of_le_one_left (hx.trans hxy.le) hy
  unfold chord
  linarith

/-- steepest in the middle -/
theorem chord_le (x y : ℚ) : chord x y ≤ 3 / 2 := by
  have hsquares : 3 / 2 - chord x y = (2 * x + 2 * y - 2) ^ 2 * (3 / 8) + (x - y) ^ 2 / 2 := by
    unfold chord
    ring
  have hnonneg : 0 ≤ (2 * x + 2 * y - 2) ^ 2 * (3 / 8) + (x - y) ^ 2 / 2 := by positivity
  linarith

/-- the ease climbs between 0 and 1 -/
theorem smooth_lt {x y : ℚ} (hx : 0 ≤ x) (hxy : x < y) (hy : y ≤ 1) : x * x * (3 - 2 * x) < y * y * (3 - 2 * y) := by
  have hclimb := mul_pos (sub_pos.2 hxy) (chord_pos hx hxy hy)
  rw [← smooth_sub] at hclimb
  exact sub_pos.1 hclimb

theorem smooth_mono {x y : ℚ} (hx : 0 ≤ x) (hxy : x ≤ y) (hy : y ≤ 1) : x * x * (3 - 2 * x) ≤ y * y * (3 - 2 * y) := by
  rcases hxy.eq_or_lt with rfl | hlt
  · exact le_rfl
  · exact (smooth_lt hx hlt hy).le

theorem apply_mono (curve : Curve) {x y : ℚ} (h : x ≤ y) : curve.apply x ≤ curve.apply y := by
  have hxy := clampUnit_mono h
  cases curve with
  | linear => exact hxy
  | smoothStep => exact smooth_mono (clampUnit_bounds x).1 hxy (clampUnit_bounds y).2

/-- the steepest slope of a curve -/
def steepness : Curve → ℚ
  | .linear => 1
  | .smoothStep => 3 / 2

theorem steepness_nonneg (curve : Curve) : 0 ≤ curve.steepness := by
  cases curve <;> norm_num [steepness]

/-- between 0 and 1, nothing is cut off -/
theorem apply_of_unit (curve : Curve) {x : ℚ} (h0 : 0 ≤ x) (h1 : x ≤ 1) :
    curve.apply x = match curve with
      | .linear => x
      | .smoothStep => x * x * (3 - 2 * x) := by
  simp only [apply, clampUnit_of_unit h0 h1]
  rfl

theorem apply_lt (curve : Curve) {x y : ℚ} (hx : 0 ≤ x) (hxy : x < y) (hy : y ≤ 1) : curve.apply x < curve.apply y := by
  rw [curve.apply_of_unit hx (hxy.le.trans hy), curve.apply_of_unit (hx.trans hxy.le) hy]
  cases curve with
  | linear => exact hxy
  | smoothStep => exact smooth_lt hx hxy hy

theorem apply_sub_le (curve : Curve) {x y : ℚ} (hx : 0 ≤ x) (hxy : x ≤ y) (hy : y ≤ 1) :
    curve.apply y - curve.apply x ≤ curve.steepness * (y - x) := by
  rw [curve.apply_of_unit hx (hxy.trans hy), curve.apply_of_unit (hx.trans hxy) hy]
  cases curve with
  | linear => exact (one_mul (y - x)).ge
  | smoothStep =>
    calc y * y * (3 - 2 * y) - x * x * (3 - 2 * x) = (y - x) * chord x y := smooth_sub x y
      _ ≤ (y - x) * (3 / 2) := mul_le_mul_of_nonneg_left (chord_le x y) (sub_nonneg.2 hxy)
      _ = 3 / 2 * (y - x) := mul_comm _ _

end Curve

namespace Clock

variable (curve : Curve) (t : Timing) {c d : Clock}

theorem span_cast_pos : (0 : ℚ) < t.span := Nat.cast_pos.2 t.span_pos

/-- a larger ramp has no lower level -/
theorem level_mono (h : c.ramp ≤ d.ramp) : (c.level curve t : ℚ) ≤ d.level curve t := by
  refine curve.apply_mono ?_
  have hramp : (c.ramp : ℚ) ≤ d.ramp := Nat.cast_le.2 h
  exact div_le_div_of_nonneg_right hramp (span_cast_pos t).le

/-- how far up the ramp is -/
theorem progress_bounds {ramp : ℕ} (h : ramp ≤ t.span) : (0 : ℚ) ≤ ramp / t.span ∧ (ramp : ℚ) / t.span ≤ 1 := by
  have hramp : (ramp : ℚ) ≤ t.span := Nat.cast_le.2 h
  exact ⟨div_nonneg ramp.cast_nonneg (span_cast_pos t).le, (div_le_one (span_cast_pos t)).2 hramp⟩

/-- up to the span, a larger ramp has a higher level -/
theorem level_lt (h : c.ramp < d.ramp) (hd : d.ramp ≤ t.span) : (c.level curve t : ℚ) < d.level curve t := by
  have hramp : (c.ramp : ℚ) < d.ramp := Nat.cast_lt.2 h
  exact curve.apply_lt (progress_bounds t (h.le.trans hd)).1 (div_lt_div_of_pos_right hramp (span_cast_pos t))
    (progress_bounds t hd).2

/-- and one that is higher by no more than the steepest slope gives -/
theorem level_sub_le (h : c.ramp ≤ d.ramp) (hd : d.ramp ≤ t.span) :
    (d.level curve t : ℚ) - c.level curve t ≤ curve.steepness * ((d.ramp - c.ramp) / t.span) := by
  have hramp : (c.ramp : ℚ) ≤ d.ramp := Nat.cast_le.2 h
  rw [sub_div]
  exact curve.apply_sub_le (progress_bounds t (h.trans hd)).1 (div_le_div_of_nonneg_right hramp (span_cast_pos t).le)
    (progress_bounds t hd).2

end Clock

end Stagecraft
