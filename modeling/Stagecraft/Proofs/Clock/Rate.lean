/-
Levels tick by tick, in exact numbers. A ramp that signals can leave is never past the span, so that nothing of a level is cut off:
it tells the bottom and the top from everything in between, and one ramp from another. And a ramp goes one tick up or down at most,
so that a level changes by no more than the steepest slope of its curve over the span.

- `le_ramp_advance`: one tick down at most.
- `level_eq_zero_iff`, `level_eq_one_iff`: the ends.
- `level_advance`: one tick of a level.
- `level_faithful`: all of it, after any acts.
-/
import Mathlib.Tactic
import Stagecraft.Proofs.Clock.Level
import Stagecraft.Proofs.Clock.Monotone

namespace Stagecraft.Clock

variable {t : Timing} {c : Clock}

/-- a tick takes a ramp down by one at most -/
theorem le_ramp_advance (hc : Reachable t c) (signal : Bool) : c.ramp ≤ (c.advance t signal).ramp + 1 := by
  by_cases hup : signal = true ∨ 0 < c.hold
  · have hramp := hc.wellFormed.ramp_le
    rw [(rises hc hup).ramp_eq]
    omega
  · obtain ⟨hoff, hspent⟩ := not_or.1 hup
    rw [Bool.eq_false_of_not_eq_true hoff, falls hc (Nat.eq_zero_of_not_pos hspent)]
    omega

/-! ## The ends -/

theorem level_of_bottom (curve : Curve) (h : c.ramp = 0) : (c.level curve t : ℚ) = 0 := by
  have hnone : (Scalar.ofNat c.ramp : ℚ) / Scalar.ofNat t.span = 0 := by
    rw [h]
    exact zero_div _
  rw [level, hnone, curve.apply_of_unit le_rfl zero_le_one]
  cases curve <;> norm_num

theorem level_of_top (curve : Curve) (h : c.ramp = t.span) : (c.level curve t : ℚ) = 1 := by
  have hfull : (Scalar.ofNat c.ramp : ℚ) / Scalar.ofNat t.span = 1 := by
    rw [h]
    exact div_self (span_cast_pos t).ne'
  rw [level, hfull, curve.apply_of_unit zero_le_one le_rfl]
  cases curve <;> norm_num

theorem level_bounds (curve : Curve) (h : c.ramp ≤ t.span) : 0 ≤ (c.level curve t : ℚ) ∧ (c.level curve t : ℚ) ≤ 1 := by
  let full : Clock := { c with ramp := t.span }
  have hbottom : (fresh.level curve t : ℚ) = 0 := level_of_bottom curve rfl
  have htop : (full.level curve t : ℚ) = 1 := level_of_top curve rfl
  exact ⟨hbottom.symm.trans_le (level_mono curve t (Nat.zero_le _)), (level_mono curve t h).trans_eq htop⟩

/-- a level above the bottom is told from it -/
theorem level_eq_zero_iff (curve : Curve) (h : c.ramp ≤ t.span) : (c.level curve t : ℚ) = 0 ↔ c.ramp = 0 := by
  refine ⟨fun hlevel => ?_, level_of_bottom curve⟩
  by_contra hramp
  have hclimb : (fresh.level curve t : ℚ) < c.level curve t := level_lt curve t (Nat.pos_of_ne_zero hramp) h
  have hbottom : (fresh.level curve t : ℚ) = 0 := level_of_bottom curve rfl
  linarith

/-- a level below the top is told from it -/
theorem level_eq_one_iff (curve : Curve) (h : c.ramp ≤ t.span) : (c.level curve t : ℚ) = 1 ↔ c.ramp = t.span := by
  refine ⟨fun hlevel => ?_, level_of_top curve⟩
  by_contra hramp
  let full : Clock := { c with ramp := t.span }
  have hclimb : (c.level curve t : ℚ) < full.level curve t := level_lt curve t (lt_of_le_of_ne h hramp) le_rfl
  have htop : (full.level curve t : ℚ) = 1 := level_of_top curve rfl
  linarith

/-! ## One tick -/

/-- ramps that are one tick apart at most have levels that are no further apart than a tick on the steepest slope -/
theorem abs_level_sub_le (curve : Curve) {c d : Clock} (h : c.ramp ≤ d.ramp) (hd : d.ramp ≤ t.span) (hnext : d.ramp ≤ c.ramp + 1) :
    |(d.level curve t : ℚ) - c.level curve t| ≤ curve.steepness / t.span := by
  have hramp : (d.ramp : ℚ) - c.ramp ≤ 1 := by
    have hcast : (d.ramp : ℚ) ≤ c.ramp + 1 := by exact_mod_cast hnext
    linarith
  rw [abs_of_nonneg (sub_nonneg.2 (level_mono curve t h))]
  calc (d.level curve t : ℚ) - c.level curve t ≤ curve.steepness * ((d.ramp - c.ramp) / t.span) := level_sub_le curve t h hd
    _ ≤ curve.steepness * (1 / t.span) :=
      mul_le_mul_of_nonneg_left (div_le_div_of_nonneg_right hramp (span_cast_pos t).le) curve.steepness_nonneg
    _ = curve.steepness / t.span := mul_one_div _ _

theorem level_advance (curve : Curve) (hc : Reachable t c) (signal : Bool) :
    |((c.advance t signal).level curve t : ℚ) - c.level curve t| ≤ curve.steepness / t.span := by
  have hbefore : c.ramp ≤ t.span := hc.wellFormed.ramp_le
  have hafter : (c.advance t signal).ramp ≤ t.span := (hc.advance signal).wellFormed.ramp_le
  have hup : (c.advance t signal).ramp ≤ c.ramp + 1 := (ramp_advance_le hc signal).trans (min_le_left _ _)
  rcases le_total c.ramp (c.advance t signal).ramp with hle | hle
  · exact abs_level_sub_le curve hle hafter hup
  · rw [abs_sub_comm]
    exact abs_level_sub_le curve hle hbefore (le_ramp_advance hc signal)

/-! ## Main result -/

/-- **Levels in exact numbers.** After any acts on a new clock, whatever its timing and its curve: its ramp is not past the span, and
its level is between 0 and 1, at 0 if and only if it is idle and at 1 if and only if it is held; of two such clocks of one timing, the
one with the larger ramp has the higher level; and one tick changes the level by no more than the steepness of the curve over the
span, which is 1 over the span without a bend and 3/2 over the span with the ease. -/
theorem level_faithful (t : Timing) (curve : Curve) (acts : List Act) :
    let c := fresh.perform t acts
    let level : ℚ := c.level curve t
    c.ramp ≤ t.span ∧ 0 ≤ level ∧ level ≤ 1 ∧ (level = 0 ↔ c.phase = .idle) ∧ (level = 1 ↔ c.phase = .held) ∧
      (∀ others, c.ramp < (fresh.perform t others).ramp → level < (fresh.perform t others).level curve t) ∧
      ∀ signal, |(c.advance t signal).level curve t - level| ≤ curve.steepness / t.span := by
  intro c level
  have hc : Reachable t c := reachable_perform t acts
  have hramp : c.ramp ≤ t.span := hc.wellFormed.ramp_le
  obtain ⟨hidle, hheld⟩ := hc.wellFormed.phase_iff
  obtain ⟨hlow, hhigh⟩ := level_bounds curve hramp
  refine ⟨hramp, hlow, hhigh, ?_, ?_, fun others hlt => ?_, level_advance curve hc⟩
  · rw [hidle]
    exact level_eq_zero_iff curve hramp
  · rw [hheld]
    exact level_eq_one_iff curve hramp
  · exact level_lt curve t hlt (reachable_perform t others).wellFormed.ramp_le

/-- a drawbridge that eases up in four ticks, halfway after two: a third tick takes it higher, by 3/8 at most, and a fourth to the
top -/
theorem level_faithful_drawbridge :
    let t : Timing := ⟨4, 1⟩
    let acts : List Act := [.advance true, .reset, .advance true, .advance true]
    let c := fresh.perform t acts
    let d := fresh.perform t (acts ++ [.advance true])
    let e := fresh.perform t (acts ++ [.advance true, .advance true])
    c.ramp < d.ramp ∧ (c.level .smoothStep t : ℚ) < d.level .smoothStep t ∧
      |(d.level .smoothStep t : ℚ) - c.level .smoothStep t| ≤ 3 / 8 ∧ e.phase = .held ∧ (e.level .smoothStep t : ℚ) = 1 := by
  intro t acts c d e
  obtain ⟨-, -, -, -, -, hhigher, hrate⟩ := level_faithful t .smoothStep acts
  obtain ⟨-, -, -, -, htop, -, -⟩ := level_faithful t .smoothStep (acts ++ [.advance true, .advance true])
  have hramp : c.ramp < d.ramp := by decide
  have hheld : e.phase = .held := by decide
  have hslope : Curve.steepness .smoothStep / (t.span : ℚ) = 3 / 8 := by
    have hspan : t.span = 4 := by decide
    norm_num [hspan, Curve.steepness]
  exact ⟨hramp, hhigher _ hramp, hslope ▸ hrate true, hheld, htop.2 hheld⟩

end Stagecraft.Clock
