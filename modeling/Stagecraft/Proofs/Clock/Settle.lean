/-
Where a clock comes to rest under a signal that stays. Every clock that signals can leave has its ramp where its phase says
(`WellFormed`): at the bottom while idle, at the top while held, and strictly in between while it moves.

- `run_on`: while the signal is on, the ramp grows by one tick per tick up to the span.
- `distance_advance`: while it is off, the hold and then the ramp run out, one tick per tick. A ramp that keeps growing
  while it holds is no further from the bottom for it: what counts is the hold and the whole span.
- `level_settled`: after the span and the delay, the ramp is at the top or at the bottom, and the level is 1 or 0.
-/
import Mathlib.Tactic
import Stagecraft.Proofs.Number.Quotient
import Stagecraft.Animation.Clock

namespace Stagecraft

namespace Timing

theorem span_pos (t : Timing) : 0 < t.span := lt_of_lt_of_le one_pos (le_max_right _ _)

/-- a span is a whole number that a double holds exactly -/
theorem span_lt (t : Timing) : t.span < 2 ^ 53 := by
  have := t.duration.toInt_lt
  unfold span durationTicks
  omega

end Timing

namespace Clock

/-! ## Any signals -/

/-- the clock after signals, one per tick -/
def run (t : Timing) (c : Clock) (signals : List Bool) : Clock := signals.foldl (fun c signal => c.advance t signal) c

theorem run_snoc (t : Timing) (c : Clock) (signals : List Bool) (signal : Bool) :
    c.run t (signals ++ [signal]) = (c.run t signals).advance t signal := by
  simp [run]

/-- what every tick keeps, a run keeps -/
theorem run_keeps {P : Clock → Prop} {t : Timing} {c : Clock} (h : P c) {signals : List Bool}
    (hP : ∀ d signal, P d → P (d.advance t signal)) : P (c.run t signals) := by
  induction signals generalizing c with
  | nil => exact h
  | cons signal signals ih => exact ih (hP c signal h)

/-- a clock that signals can leave behind -/
def Reachable (t : Timing) (c : Clock) : Prop := ∃ signals, fresh.run t signals = c

/-- the ramp stands where the phase says, and no more than the delay is held -/
structure WellFormed (t : Timing) (c : Clock) : Prop where
  hold_le : c.hold ≤ t.delayTicks
  ramp_idle : c.phase = .idle → c.ramp = 0
  ramp_held : c.phase = .held → c.ramp = t.span
  ramp_up : c.phase = .rampingUp → 0 < c.ramp ∧ c.ramp < t.span
  ramp_down : c.phase = .rampingDown → 0 < c.ramp ∧ c.ramp < t.span

namespace WellFormed

variable {t : Timing} {c : Clock}

theorem fresh (t : Timing) : WellFormed t Clock.fresh :=
  ⟨Nat.zero_le _, fun _ => rfl, nofun, nofun, nofun⟩

theorem ramp_le (h : WellFormed t c) : c.ramp ≤ t.span := by
  cases hphase : c.phase with
  | idle => rw [h.ramp_idle hphase]; exact Nat.zero_le _
  | held => exact (h.ramp_held hphase).le
  | rampingUp => exact (h.ramp_up hphase).2.le
  | rampingDown => exact (h.ramp_down hphase).2.le

/-- one tick up, from anywhere -/
theorem rampUp (hhold : c.hold ≤ t.delayTicks) : WellFormed t (c.rampUp t) := by
  have := t.span_pos
  unfold Clock.rampUp
  by_cases htop : t.span ≤ min (c.ramp + 1) t.span
  · simp only [htop, if_true]
    exact ⟨hhold, nofun, fun _ => by simp only; omega, nofun, nofun⟩
  · simp only [htop, if_false]
    exact ⟨hhold, nofun, nofun, fun _ => by simp only; omega, nofun⟩

/-- one tick down, from above the bottom -/
theorem rampDown (hhold : c.hold ≤ t.delayTicks) (hramp : 0 < c.ramp ∧ c.ramp ≤ t.span) :
    WellFormed t c.rampDown := by
  unfold Clock.rampDown
  by_cases hbottom : c.ramp - 1 = 0
  · simp only [hbottom, if_true]
    exact ⟨hhold, fun _ => rfl, nofun, nofun, nofun⟩
  · simp only [hbottom, if_false]
    exact ⟨hhold, nofun, nofun, nofun, fun _ => by simp only; omega⟩

/-- one tick, with the signal on or off -/
theorem advance (h : WellFormed t c) (signal : Bool) : WellFormed t (c.advance t signal) := by
  have := t.span_pos
  -- the clock with the new signal noted is as well formed
  have hnoted : WellFormed t { c with moved := signal != c.engaged, engaged := signal } := ⟨h.1, h.2, h.3, h.4, h.5⟩
  unfold Clock.advance
  simp only
  generalize { c with moved := signal != c.engaged, engaged := signal } = c at hnoted
  cases signal with
  | true =>
    simp only [if_true, engage]
    split_ifs with hheld
    · exact ⟨le_rfl, hnoted.2, hnoted.3, hnoted.4, hnoted.5⟩
    · exact rampUp le_rfl
  | false =>
    simp only [Bool.false_eq_true, if_false, release]
    have hhold := hnoted.hold_le
    split
    · exact hnoted
    · rename_i hphase
      have := hnoted.ramp_down hphase
      exact rampDown hhold (by omega)
    · rename_i hphase
      have := hnoted.ramp_up hphase
      split_ifs
      · exact rampUp (by simp only; omega)
      · exact rampDown hhold (by omega)
    · rename_i hphase
      have := hnoted.ramp_held hphase
      split_ifs
      · exact ⟨by simp only; omega, hnoted.2, hnoted.3, hnoted.4, hnoted.5⟩
      · exact rampDown hhold (by omega)

theorem run (h : WellFormed t c) (signals : List Bool) : WellFormed t (c.run t signals) :=
  run_keeps h fun _ signal hd => hd.advance signal

end WellFormed

theorem Reachable.wellFormed {t : Timing} {c : Clock} (h : Reachable t c) : WellFormed t c := by
  obtain ⟨signals, rfl⟩ := h
  exact (WellFormed.fresh t).run signals

/-! ## A signal that stays -/

variable {t : Timing} {c : Clock}

/-- one tick with the signal on -/
theorem ramp_advance_on (h : WellFormed t c) : (c.advance t true).ramp = min (c.ramp + 1) t.span := by
  simp only [advance, if_true, engage]
  split_ifs with hheld
  · rw [h.ramp_held hheld]
    simp
  · rfl

theorem ramp_run_on (h : WellFormed t c) (n : Nat) :
    (c.run t (List.replicate n true)).ramp = min (c.ramp + n) t.span := by
  induction n generalizing c with
  | zero => simpa [run] using h.ramp_le
  | succ n ih =>
    rw [List.replicate_succ]
    refine (ih (h.advance true)).trans ?_
    rw [ramp_advance_on h]
    omega

/-- the ticks without signal until the ramp is at the bottom, at most -/
def distance (t : Timing) (c : Clock) : Nat :=
  match c.phase with
  | .idle => 0
  | .rampingDown => c.ramp
  | .rampingUp | .held => c.hold + t.span

theorem distance_le (h : WellFormed t c) : c.distance t ≤ t.delayTicks + t.span := by
  have hhold := h.hold_le
  have hramp := h.ramp_le
  unfold distance
  split <;> omega

theorem ramp_of_distance (h : WellFormed t c) (hd : c.distance t = 0) : c.ramp = 0 := by
  have := t.span_pos
  unfold distance at hd
  split at hd
  · exact h.ramp_idle ‹_›
  · exact hd
  · omega
  · omega

theorem distance_rampDown (c : Clock) : c.rampDown.distance t ≤ c.ramp - 1 := by
  unfold rampDown distance
  by_cases hbottom : c.ramp - 1 = 0 <;> simp [hbottom]

theorem distance_rampUp (t : Timing) (c : Clock) : (c.rampUp t).distance t = c.hold + t.span := by
  unfold rampUp distance
  by_cases htop : t.span ≤ min (c.ramp + 1) t.span <;> simp only [htop, if_true, if_false]

/-- one tick with the signal off -/
theorem distance_advance (h : WellFormed t c) : (c.advance t false).distance t ≤ c.distance t - 1 := by
  have hramp := h.ramp_le
  cases hphase : c.phase with
  | idle => simp [advance, release, distance, hphase]
  | rampingDown =>
    simp only [advance, release, hphase, Bool.false_eq_true, if_false]
    refine (distance_rampDown _).trans ?_
    simp [distance, hphase]
  | rampingUp =>
    simp only [advance, release, hphase, Bool.false_eq_true, if_false]
    split_ifs with hhold
    · rw [distance_rampUp]
      simp only [distance, hphase]
      omega
    · refine (distance_rampDown _).trans ?_
      simp only [distance, hphase]
      omega
  | held =>
    simp only [advance, release, hphase, Bool.false_eq_true, if_false]
    split_ifs with hhold
    · simp only [distance, hphase]
      omega
    · refine (distance_rampDown _).trans ?_
      simp only [distance, hphase]
      omega

theorem distance_run_off (h : WellFormed t c) (n : Nat) :
    (c.run t (List.replicate n false)).distance t ≤ c.distance t - n := by
  induction n generalizing c with
  | zero => exact le_rfl
  | succ n ih =>
    have hstep := distance_advance h
    rw [List.replicate_succ]
    refine (ih (h.advance false)).trans ?_
    omega

/-! ## At rest -/

theorem level_top (curve : Curve) (hramp : c.ramp = t.span) : (c.level curve t : Float) = Float.ofNat 1 := by
  have hfull : (Scalar.ofNat c.ramp : Float) / Scalar.ofNat t.span = Float.ofNat 1 := by
    rw [hramp]
    exact Double.ofNat_div_self t.span_pos t.span_lt
  rw [level, hfull]
  cases curve <;> decide +kernel

theorem level_bottom (curve : Curve) (hramp : c.ramp = 0) : (c.level curve t : Float) = Float.ofNat 0 := by
  have hnone : (Scalar.ofNat c.ramp : Float) / Scalar.ofNat t.span = Float.ofNat 0 := by
    rw [hramp]
    exact Double.zero_div_ofNat t.span_pos t.span_lt
  rw [level, hnone]
  cases curve <;> decide +kernel

/-- **At rest.** After the span and the delay under one signal, the level of a clock is 1 or 0 as the signal is on or off. -/
theorem level_settled (hc : Reachable t c) (curve : Curve) (signal : Bool) (n : Nat) (hn : t.span + t.delayTicks ≤ n) :
    ((c.run t (List.replicate n signal)).level curve t : Float) = if signal then Float.ofNat 1 else Float.ofNat 0 := by
  cases signal with
  | true =>
    refine level_top curve ?_
    rw [ramp_run_on hc.wellFormed]
    omega
  | false =>
    refine level_bottom curve (ramp_of_distance (hc.wellFormed.run _) ?_)
    have hrun := distance_run_off hc.wellFormed n
    have hstart := distance_le hc.wellFormed
    omega

end Clock

end Stagecraft
