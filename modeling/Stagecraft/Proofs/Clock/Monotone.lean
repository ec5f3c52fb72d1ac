/-
More signal, more level. Two clocks of one timing run side by side, and the second has the signal whenever the first has it. Whatever
their phases are, the first never gets ahead of the second: as long as it has its signal or some hold left, so has the second, and
both go up; and when the second comes down, so does the first.

- `Below.advance`: one tick of both.
- `below_run`: any number of ticks.
- `run_mono`: two new clocks, after every prefix of their signals.
-/
import Mathlib.Tactic
import Stagecraft.Proofs.Clock.Counters
import Stagecraft.Proofs.Clock.Level

namespace Stagecraft.Clock

variable {t : Timing} {c d : Clock}

/-- no further up, and with no more of the hold left -/
structure Below (c d : Clock) : Prop where
  ramp : c.ramp ≤ d.ramp
  hold : c.hold ≤ d.hold

theorem Below.refl (c : Clock) : Below c c := ⟨le_rfl, le_rfl⟩

/-- a tick takes a ramp up by one at most -/
theorem ramp_advance_le (hc : Reachable t c) (signal : Bool) : (c.advance t signal).ramp ≤ min (c.ramp + 1) t.span := by
  by_cases hup : signal = true ∨ 0 < c.hold
  · exact (rises hc hup).ramp_eq.le
  · obtain ⟨hoff, hspent⟩ := not_or.1 hup
    rw [Bool.eq_false_of_not_eq_true hoff, falls hc (Nat.eq_zero_of_not_pos hspent)]
    have hramp := hc.wellFormed.ramp_le
    omega

namespace Below

/-- the hold of the second clock is renewed whenever that of the first is -/
theorem hold_advance_mono (hc : Reachable t c) (hd : Reachable t d) (h : Below c d) {x y : Bool}
    (hxy : x = true → y = true) : (c.advance t x).hold ≤ (d.advance t y).hold := by
  have hc_le := hc.wellFormed.hold_le
  have hhold := h.hold
  rw [hold_advance hc, hold_advance hd]
  cases x with
  | true => rw [if_pos rfl, if_pos (hxy rfl)]
  | false =>
    cases y with
    | true =>
      rw [if_neg Bool.false_ne_true, if_pos rfl]
      omega
    | false =>
      rw [if_neg Bool.false_ne_true, if_neg Bool.false_ne_true]
      omega

/-- and its ramp goes up whenever that of the first may -/
theorem ramp_advance_mono (hc : Reachable t c) (hd : Reachable t d) (h : Below c d) {x y : Bool}
    (hxy : x = true → y = true) : (c.advance t x).ramp ≤ (d.advance t y).ramp := by
  have hramp := h.ramp
  have hhold := h.hold
  by_cases hup : y = true ∨ 0 < d.hold
  · -- the second clock goes up, and the first no further
    calc (c.advance t x).ramp ≤ min (c.ramp + 1) t.span := ramp_advance_le hc x
      _ ≤ min (d.ramp + 1) t.span := by omega
      _ = (d.advance t y).ramp := (rises hd hup).ramp_eq.symm
  · -- the second clock comes down, so that the first has neither its signal nor hold left
    obtain ⟨hoff, hspent⟩ := not_or.1 hup
    have hxoff : x = false := Bool.eq_false_of_not_eq_true fun hon => hoff (hxy hon)
    rw [hxoff, Bool.eq_false_of_not_eq_true hoff, falls hc (by omega), falls hd (by omega)]
    omega

/-- one tick of both clocks -/
theorem advance (hc : Reachable t c) (hd : Reachable t d) (h : Below c d) {x y : Bool} (hxy : x = true → y = true) :
    Below (c.advance t x) (d.advance t y) :=
  ⟨ramp_advance_mono hc hd h hxy, hold_advance_mono hc hd h hxy⟩

end Below

/-- any number of ticks of both clocks -/
theorem below_run {a b : List Bool} (hab : List.Forall₂ (fun x y => x = true → y = true) a b) (hc : Reachable t c)
    (hd : Reachable t d) (h : Below c d) : Below (c.run t a) (d.run t b) := by
  induction hab generalizing c d with
  | nil => exact h
  | cons hxy _ ih => exact ih (hc.advance _) (hd.advance _) (h.advance hc hd hxy)

/-- **More signal, more level.** Of two new clocks of one timing, let the second have the signal in every tick in which the first has
it. Then after every number of ticks the first has its ramp no higher, no more of its hold left, and no higher a level. -/
theorem run_mono (t : Timing) {a b : List Bool} (hab : List.Forall₂ (fun x y => x = true → y = true) a b) (k : ℕ) :
    let c := fresh.run t (a.take k)
    let d := fresh.run t (b.take k)
    c.ramp ≤ d.ramp ∧ c.hold ≤ d.hold ∧ ∀ curve : Curve, (c.level curve t : ℚ) ≤ d.level curve t := by
  intro c d
  have hfresh := reachable_fresh t
  have hbelow : Below c d := below_run (List.forall₂_take k hab) hfresh hfresh (.refl fresh)
  exact ⟨hbelow.ramp, hbelow.hold, fun curve => level_mono curve t hbelow.ramp⟩

/-- two gates that take three ticks and wait for one, and the second is called once more: after four ticks the first is down again,
and the second is at the top, where its wait is just over -/
theorem run_mono_gates :
    let t : Timing := ⟨3, 1⟩
    let a := [true, false, false, false]
    let b := [true, false, true, false]
    let c := fresh.run t a
    let d := fresh.run t b
    List.Forall₂ (fun x y => x = true → y = true) a b ∧ c.phase = .idle ∧ d.phase = .held ∧ c.ramp ≤ d.ramp ∧
      c.hold ≤ d.hold ∧ (c.level .smoothStep t : ℚ) ≤ d.level .smoothStep t := by
  intro t a b c d
  have hab : List.Forall₂ (fun x y => x = true → y = true) a b := by decide
  obtain ⟨hramp, hhold, hlevel⟩ := run_mono t hab 4
  exact ⟨hab, by decide, by decide, hramp, hhold, hlevel .smoothStep⟩

end Stagecraft.Clock
