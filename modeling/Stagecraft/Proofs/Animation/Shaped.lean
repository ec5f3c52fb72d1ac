/-
Shaping in exact numbers. A bound is tried only where it is set, and the upper one only where the lower one is kept. So that both
are kept they must be in order, and that is what loading sees to: then clamping is to cap a value and to raise what comes of it, and
so it goes up with its argument.

- `clamp_eq_raise_cap`: a clamped value, capped and raised. `clamp_mono`, `le_clamp`, `clamp_le`, `clamp_of_within` follow from it.
- `apply_of_axis`, `apply_of_absolute`, `apply_of_no_axis`: shaped values with an axis, with magnitudes, and without an axis.
- `shaped_in_bounds`: all of it.
-/
import Mathlib.Tactic
import Mathlib.Analysis.Real.Sqrt
import Stagecraft.Animation.Validation

namespace Stagecraft

/-- exact numbers, with roots -/
noncomputable instance : RootScalar ℝ where
  ofNat n := n
  abs x := |x|
  isZero x := decide (x = 0)
  decLt := inferInstance
  decLe := inferInstance
  sqrt := Real.sqrt

namespace Shape

variable {s : Shape ℝ}

/-- where both bounds are set, they are in order -/
theorem crossed_eq_false_iff : s.crossed = false ↔ (s.clampMin ≠ 0 → s.clampMax ≠ 0 → s.clampMin ≤ s.clampMax) := by
  simp [crossed, Scalar.isZero]

/-! ## Clamping -/

/-- held below the upper bound, if that is set -/
noncomputable def cap (s : Shape ℝ) (v : ℝ) : ℝ := if s.clampMax = 0 then v else min v s.clampMax

/-- held above the lower bound, if that is set -/
noncomputable def raise (s : Shape ℝ) (v : ℝ) : ℝ := if s.clampMin = 0 then v else max v s.clampMin

theorem clamp_eq_ite (s : Shape ℝ) (v : ℝ) :
    s.clamp v = if s.clampMin ≠ 0 ∧ v < s.clampMin then s.clampMin
      else if s.clampMax ≠ 0 ∧ s.clampMax < v then s.clampMax else v := by
  simp [clamp, Scalar.isZero]

theorem cap_le (s : Shape ℝ) (v : ℝ) : s.cap v ≤ v := by
  unfold cap
  split_ifs
  · exact le_rfl
  · exact min_le_left _ _

theorem cap_of_le {v : ℝ} (h : s.clampMax ≠ 0 → v ≤ s.clampMax) : s.cap v = v := by
  unfold cap
  split_ifs with hmax
  · rfl
  · exact min_eq_left (h hmax)

theorem raise_of_le {v : ℝ} (h : s.clampMin ≠ 0 → s.clampMin ≤ v) : s.raise v = v := by
  unfold raise
  split_ifs with hmin
  · rfl
  · exact max_eq_left (h hmin)

/-- a clamped value is capped first, and what comes of it is raised -/
theorem clamp_eq_raise_cap (hordered : s.crossed = false) (v : ℝ) : s.clamp v = s.raise (s.cap v) := by
  rw [clamp_eq_ite]
  split_ifs with hbelow habove
  · obtain ⟨hmin, hlt⟩ := hbelow
    rw [raise, if_neg hmin, max_eq_right ((s.cap_le v).trans hlt.le)]
  · obtain ⟨hmax, hlt⟩ := habove
    have hcap : s.cap v = s.clampMax := by rw [cap, if_neg hmax, min_eq_right hlt.le]
    rw [hcap, raise_of_le fun hmin => crossed_eq_false_iff.1 hordered hmin hmax]
  · have hcap : s.cap v = v := cap_of_le fun hmax => not_lt.1 fun hlt => habove ⟨hmax, hlt⟩
    rw [hcap, raise_of_le fun hmin => not_lt.1 fun hlt => hbelow ⟨hmin, hlt⟩]

theorem cap_mono (s : Shape ℝ) : Monotone s.cap := by
  intro v w h
  unfold cap
  split_ifs
  · exact h
  · exact min_le_min_right _ h

theorem raise_mono (s : Shape ℝ) : Monotone s.raise := by
  intro v w h
  unfold raise
  split_ifs
  · exact h
  · exact max_le_max_right _ h

/-- a larger value is clamped to no smaller one -/
theorem clamp_mono (hordered : s.crossed = false) : Monotone s.clamp := by
  intro v w h
  rw [clamp_eq_raise_cap hordered, clamp_eq_raise_cap hordered]
  exact s.raise_mono (s.cap_mono h)

theorem le_clamp (hordered : s.crossed = false) (hmin : s.clampMin ≠ 0) (v : ℝ) : s.clampMin ≤ s.clamp v := by
  rw [clamp_eq_raise_cap hordered, raise, if_neg hmin]
  exact le_max_right _ _

theorem clamp_le (hordered : s.crossed = false) (hmax : s.clampMax ≠ 0) (v : ℝ) : s.clamp v ≤ s.clampMax := by
  have hcap : s.cap v ≤ s.clampMax := by
    rw [cap, if_neg hmax]
    exact min_le_right _ _
  rw [clamp_eq_raise_cap hordered, raise]
  split_ifs with hmin
  · exact hcap
  · exact max_le hcap (crossed_eq_false_iff.1 hordered hmin hmax)

/-- a value that violates no bound is kept -/
theorem clamp_of_within {v : ℝ} (hmin : s.clampMin ≠ 0 → s.clampMin ≤ v) (hmax : s.clampMax ≠ 0 → v ≤ s.clampMax) :
    s.clamp v = v := by
  rw [clamp_eq_ite, if_neg fun h => h.2.not_ge (hmin h.1), if_neg fun h => h.2.not_ge (hmax h.1)]

/-! ## Shaping -/

theorem rectify_eq (s : Shape ℝ) (v : ℝ) : s.rectify v = if s.absolute then |v| else v := rfl

/-- a value with an axis, before it is clamped -/
noncomputable def unclamped (s : Shape ℝ) (axis : Axis ℝ) (stacking raw : ℝ) : ℝ :=
  √(axis.x ^ 2 + axis.y ^ 2 + axis.z ^ 2) * raw + s.offset + stacking

theorem apply_of_axis {axis : Axis ℝ} (haxis : s.axis = some axis) (hsigned : s.absolute = false) (stacking raw : ℝ) :
    s.apply stacking raw = s.clamp (s.unclamped axis stacking raw) := by
  have hlength : axis.length = √(axis.x ^ 2 + axis.y ^ 2 + axis.z ^ 2) := by
    rw [sq, sq, sq]
    rfl
  simp [apply, haxis, rectify_eq, hsigned, unclamped, hlength]

theorem unclamped_mono (s : Shape ℝ) (axis : Axis ℝ) {stacking stacking' raw raw' : ℝ} (hstacking : stacking ≤ stacking')
    (hraw : raw ≤ raw') : s.unclamped axis stacking raw ≤ s.unclamped axis stacking' raw' := by
  unfold unclamped
  gcongr

theorem apply_of_no_axis (haxis : s.axis = none) (stacking raw : ℝ) : s.apply stacking raw = s.rectify raw := by
  rw [apply, haxis]

/-- with magnitudes, the result is one, and one of a magnitude -/
theorem apply_of_absolute (habsolute : s.absolute = true) (stacking raw : ℝ) :
    0 ≤ s.apply stacking raw ∧ s.apply stacking (-raw) = s.apply stacking raw := by
  have hrectify : ∀ v, s.rectify v = |v| := fun v => by rw [rectify_eq, if_pos habsolute]
  unfold apply
  cases s.axis with
  | none => simp [hrectify]
  | some axis => simp [hrectify]

end Shape

/-! ## Main result -/

/-- **Shaped values.** Take an animation over exact numbers. If it has an axis, wants no magnitudes and is valid, then a shaped value
keeps each bound that is set; it is the raw value times the length of the axis, plus the offset and what it rides on, wherever that
violates no bound; and it goes down neither with the raw value nor with what it rides on. With magnitudes, it is not negative and the
same for opposite raw values. Without an axis, it is the raw value, or its magnitude. -/
theorem shaped_in_bounds (a : Animation ℝ) :
    (∀ axis, a.axis = some axis → a.absolute = false → a.isValid = true →
      (∀ stacking raw,
        let v := √(axis.x ^ 2 + axis.y ^ 2 + axis.z ^ 2) * raw + a.offset + stacking
        (a.clampMin ≠ 0 → a.clampMin ≤ a.apply stacking raw) ∧ (a.clampMax ≠ 0 → a.apply stacking raw ≤ a.clampMax) ∧
          ((a.clampMin ≠ 0 → a.clampMin ≤ v) → (a.clampMax ≠ 0 → v ≤ a.clampMax) → a.apply stacking raw = v)) ∧
      (∀ stacking, Monotone (a.apply stacking)) ∧ ∀ raw, Monotone fun stacking => a.apply stacking raw) ∧
    (a.absolute = true → ∀ stacking raw, 0 ≤ a.apply stacking raw ∧ a.apply stacking (-raw) = a.apply stacking raw) ∧
    (a.axis = none → ∀ stacking raw, a.apply stacking raw = if a.absolute then |raw| else raw) := by
  refine ⟨fun axis haxis hsigned hvalid => ?_, Shape.apply_of_absolute, Shape.apply_of_no_axis⟩
  have hordered : a.crossed = false := (a.fault?_eq_none_iff.1 (a.isValid_iff.1 hvalid)).2.2
  have hclamped := fun stacking raw => Shape.apply_of_axis haxis hsigned stacking raw
  refine ⟨fun stacking raw => ?_, fun stacking raw raw' hraw => ?_, fun raw stacking stacking' hstacking => ?_⟩
  · rw [hclamped]
    exact ⟨fun hmin => Shape.le_clamp hordered hmin _, fun hmax => Shape.clamp_le hordered hmax _, Shape.clamp_of_within⟩
  · rw [hclamped, hclamped]
    exact Shape.clamp_mono hordered (a.unclamped_mono axis le_rfl hraw)
  · simp only [hclamped]
    exact Shape.clamp_mono hordered (a.unclamped_mono axis hstacking le_rfl)

/-- a winch that is to stay three below the deck: it has no lower bound, so that its upper bound may be below zero -/
noncomputable def winch : Animation ℝ :=
  { (Animation.plain .translation "load" : Animation ℝ) with axis := some ⟨0, 3, 4⟩, offset := -10, clampMin := 0, clampMax := -3 }

/-- the winch is accepted; it goes to five below the deck for a load of 1 and stops at its bound, or below, for a load of 2, never
lower for more; with magnitudes it is above the deck for either side, and without its axis it shows the load -/
theorem shaped_in_bounds_winch :
    winch.isValid = true ∧ winch.apply 0 1 = -5 ∧ winch.apply 0 2 ≤ -3 ∧ winch.apply 0 1 ≤ winch.apply 0 2 ∧
      winch.apply 0 1 ≤ winch.apply 1 1 ∧ 0 ≤ Shape.apply { winch.toShape with absolute := true } 0 (-7) ∧
      Shape.apply { winch.toShape with absolute := true } 0 (-7) = Shape.apply { winch.toShape with absolute := true } 0 7 ∧
      Shape.apply { winch.toShape with axis := none } 5 9 = 9 := by
  have hvalid : winch.isValid = true := by
    rw [winch.isValid_iff, winch.fault?_eq_none_iff, Shape.crossed_eq_false_iff]
    exact ⟨by decide +kernel, by decide +kernel, fun hmin => absurd rfl hmin⟩
  have hlength : √((0 : ℝ) ^ 2 + 3 ^ 2 + 4 ^ 2) = 5 := by
    rw [show (0 : ℝ) ^ 2 + 3 ^ 2 + 4 ^ 2 = 5 ^ 2 by norm_num]
    exact Real.sqrt_sq (by norm_num)
  obtain ⟨hshaped, -, -⟩ := shaped_in_bounds winch
  obtain ⟨hbounds, hraw, hstacking⟩ := hshaped _ rfl rfl hvalid
  obtain ⟨-, habsolute, -⟩ := shaped_in_bounds { winch with absolute := true }
  obtain ⟨-, -, hplain⟩ := shaped_in_bounds { winch with axis := none }
  have hfive : √((0 : ℝ) ^ 2 + 3 ^ 2 + 4 ^ 2) * 1 + -10 + 0 = -5 := by
    rw [hlength]
    norm_num
  refine ⟨hvalid, ?_, ?_, hraw 0 (by norm_num), hstacking 1 (by norm_num), (habsolute rfl 0 (-7)).1, ?_, hplain rfl 5 9⟩
  · have hkept := (hbounds 0 1).2.2 (fun hmin => absurd rfl hmin) fun _ => hfive.trans_le (by norm_num [winch])
    exact hkept.trans hfive
  · exact (hbounds 0 2).2.1 (by norm_num [winch])
  · exact (habsolute rfl 0 7).2

end Stagecraft
