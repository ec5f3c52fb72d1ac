/-
One tick of a clock. Whatever the phase, the clock takes the signal over and remembers whether that turned it over; a clock
whose timing does not smooth lets the raw value through.
-/
import Mathlib.Tactic
import Stagecraft.Animation.Clock

namespace Stagecraft

namespace Clock

theorem engage_keeps (t : Timing) (c : Clock) :
    (c.engage t).engaged = c.engaged ∧ (c.engage t).moved = c.moved := by
  unfold engage rampUp
  simp only
  split_ifs <;> exact ⟨rfl, rfl⟩

theorem release_keeps (t : Timing) (c : Clock) :
    (c.release t).engaged = c.engaged ∧ (c.release t).moved = c.moved := by
  unfold release rampUp rampDown
  split
  · exact ⟨rfl, rfl⟩
  · exact ⟨rfl, rfl⟩
  · split_ifs <;> exact ⟨rfl, rfl⟩
  · split_ifs <;> exact ⟨rfl, rfl⟩

@[simp] theorem advance_engaged (t : Timing) (signal : Bool) (c : Clock) : (c.advance t signal).engaged = signal := by
  unfold advance
  simp only
  split_ifs
  · exact (engage_keeps t _).1
  · exact (release_keeps t _).1

@[simp] theorem advance_moved (t : Timing) (signal : Bool) (c : Clock) :
    (c.advance t signal).moved = (signal != c.engaged) := by
  unfold advance
  simp only
  split_ifs
  · exact (engage_keeps t _).2
  · exact (release_keeps t _).2

theorem effective_of_not_smooths {α : Type} [Scalar α] (curve : Curve) {t : Timing} (ht : t.smooths = false) (c : Clock)
    (raw : α) : c.effective curve t raw = raw := by
  simp [effective, ht]

end Clock

namespace Timing

/-- a timing smooths only if it has a positive length -/
theorem smooths_eq_false {t : Timing} (hd : t.duration ≤ 0) (hl : t.delay ≤ 0) : t.smooths = false := by
  rw [Int32.le_iff_toInt_le] at hd hl
  have h0 : (0 : Int32).toInt = 0 := rfl
  rw [h0] at hd hl
  have hduration : t.durationTicks = 0 := Int.toNat_of_nonpos hd
  have hdelay : t.delayTicks = 0 := Int.toNat_of_nonpos hl
  simp [smooths, hduration, hdelay]

end Timing

end Stagecraft
