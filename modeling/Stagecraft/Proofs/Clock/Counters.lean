/-
A clock by its two counters. Whatever the phase, one tick does one of two things to a clock that signals can leave: under the
signal, or while some of the hold is left, the ramp goes up by one and stops at the span; without either, it comes down by one
and stops at the bottom. The hold is whole after a tick under the signal, and one less after a tick without it.

- `rises`, `falls`, `hold_advance`: one tick.
- `ramp_run_off`: the ramp after any number of ticks without the signal, across the end of the hold.
- `ramp_run_constant`: the closed form for either signal, and when a clock is held or idle again.
-/
import Mathlib.Tactic
import Stagecraft.Proofs.Clock.Invariant

namespace Stagecraft.Clock

variable {t : Timing} {c : Clock}

/-! ## Clocks that signals can leave -/

theorem reachable_fresh (t : Timing) : Reachable t fresh := ⟨[], rfl⟩

theorem Reachable.advance (h : Reachable t c) (signal : Bool) : Reachable t (c.advance t signal) := by
  obtain ⟨signals, rfl⟩ := h
  exact ⟨signals ++ [signal], run_snoc t fresh signals signal⟩

theorem Reachable.run (h : Reachable t c) (signals : List Bool) : Reachable t (c.run t signals) :=
  run_keeps h fun _ signal hd => hd.advance signal

theorem Reachable.spent (h : Reachable t c) : Spent t c := by
  obtain ⟨signals, rfl⟩ := h
  exact (Spent.fresh t).run signals

/-- resets add nothing -/
theorem reachable_perform (t : Timing) (acts : List Act) : Reachable t (fresh.perform t acts) :=
  ⟨signals acts, (perform_fresh t acts).symm⟩

/-! ## One tick -/

/-- a clock with some hold left is not idle, nor on the way down -/
theorem Reachable.up_of_hold (h : Reachable t c) (hhold : 0 < c.hold) : c.phase = .rampingUp ∨ c.phase = .held := by
  have hspent := h.spent.spent
  cases hphase : c.phase with
  | idle => exact absurd (hspent (.inl hphase)).2 hhold.ne'
  | rampingDown => exact absurd (hspent (.inr hphase)).2 hhold.ne'
  | rampingUp => exact .inl rfl
  | held => exact .inr rfl

/-- a clock that a tick up from a ramp has left -/
structure Risen (t : Timing) (ramp : ℕ) (c : Clock) : Prop where
  ramp_eq : c.ramp = min (ramp + 1) t.span
  phase_eq : c.phase = if t.span ≤ ramp + 1 then .held else .rampingUp

theorem risen_rampUp {ramp : ℕ} (hramp : c.ramp = ramp) : Risen t ramp (c.rampUp t) := by
  subst hramp
  refine ⟨rfl, ?_⟩
  have htop : t.span ≤ min (c.ramp + 1) t.span ↔ t.span ≤ c.ramp + 1 := by omega
  simp only [rampUp, htop]

/-- at the top, there is nowhere to go -/
theorem risen_held {ramp : ℕ} (htop : ramp = t.span) (hramp : c.ramp = ramp) (hheld : c.phase = .held) :
    Risen t ramp c := by
  refine ⟨by omega, ?_⟩
  rw [if_pos (by omega)]
  exact hheld

/-- **Up.** Under the signal, or with some hold left, a tick takes the ramp up by one, to the span at most. -/
theorem rises (h : Reachable t c) {signal : Bool} (hup : signal = true ∨ 0 < c.hold) :
    Risen t c.ramp (c.advance t signal) := by
  cases signal with
  | true =>
    simp only [advance, if_true, engage]
    by_cases hheld : c.phase = .held
    · rw [if_pos hheld]
      exact risen_held (h.wellFormed.ramp_held hheld) rfl hheld
    · rw [if_neg hheld]
      exact risen_rampUp rfl
  | false =>
    have hhold : 0 < c.hold := hup.resolve_left Bool.false_ne_true
    rcases h.up_of_hold hhold with hphase | hphase
    · simp only [advance, release, hphase, Bool.false_eq_true, if_false, if_pos hhold]
      exact risen_rampUp rfl
    · simp only [advance, release, hphase, Bool.false_eq_true, if_false, if_pos hhold]
      exact risen_held (h.wellFormed.ramp_held hphase) rfl rfl

/-- **Down.** Without the signal and with no hold left, a tick takes the ramp down by one, to the bottom at most. -/
theorem falls (h : Reachable t c) (hspent : c.hold = 0) : (c.advance t false).ramp = c.ramp - 1 := by
  have hnone : ¬0 < c.hold := by omega
  cases hphase : c.phase with
  | idle =>
    have hramp := h.wellFormed.ramp_idle hphase
    simp only [advance, release, hphase, Bool.false_eq_true, if_false]
    omega
  | rampingDown => simp only [advance, release, hphase, Bool.false_eq_true, if_false, rampDown]
  | rampingUp => simp only [advance, release, hphase, Bool.false_eq_true, if_false, if_neg hnone, rampDown]
  | held => simp only [advance, release, hphase, Bool.false_eq_true, if_false, if_neg hnone, rampDown]

/-- the hold is renewed under the signal and runs out without it -/
theorem hold_advance (h : Reachable t c) (signal : Bool) :
    (c.advance t signal).hold = if signal then t.delayTicks else c.hold - 1 := by
  cases signal with
  | true =>
    simp only [advance, if_true, engage]
    split_ifs <;> rfl
  | false =>
    by_cases hhold : 0 < c.hold
    · rcases h.up_of_hold hhold with hphase | hphase
      · simp only [advance, release, hphase, Bool.false_eq_true, if_false, if_pos hhold, rampUp]
      · simp only [advance, release, hphase, Bool.false_eq_true, if_false, if_pos hhold]
    · have hnone : c.hold - 1 = c.hold := by omega
      rw [if_neg Bool.false_ne_true, hnone]
      cases hphase : c.phase <;>
        simp only [advance, release, hphase, Bool.false_eq_true, if_false, if_neg hhold, rampDown]

theorem Reachable.ramp_pos (h : Reachable t c) (hengaged : c.engaged = true) : 0 < c.ramp := by
  have hspan := t.span_pos
  rcases (h.spent.whole hengaged).2 with hphase | hphase
  · exact (h.wellFormed.ramp_up hphase).1
  · rw [h.wellFormed.ramp_held hphase]
    exact hspan

/-! ## Ticks without the signal -/

theorem hold_run_off (h : Reachable t c) (n : ℕ) : (c.run t (List.replicate n false)).hold = c.hold - n := by
  induction n with
  | zero => rfl
  | succ n ih =>
    rw [List.replicate_succ', run_snoc, hold_advance (h.run _), ih, if_neg Bool.false_ne_true]
    omega

/-- the ramp goes up while the hold lasts, and then comes down -/
theorem ramp_run_off (h : Reachable t c) (n : ℕ) :
    (c.run t (List.replicate n false)).ramp = min t.span (c.ramp + min n c.hold) - (n - c.hold) := by
  induction n with
  | zero =>
    have hramp := h.wellFormed.ramp_le
    simp only [List.replicate_zero, run, List.foldl_nil]
    omega
  | succ n ih =>
    have hhold := hold_run_off h n
    rw [List.replicate_succ', run_snoc]
    by_cases hlasts : n < c.hold
    · rw [(rises (h.run _) (.inr (by omega))).ramp_eq, ih]
      omega
    · rw [falls (h.run _) (by omega), ih]
      omega

/-! ## Main result -/

/-- **Closed form.** From any clock that signals can leave, with its ramp at r and h of its hold left: after n ticks under the
signal, the ramp is at r + n, or at the span if that is less; after n ticks without it, the ramp has gone up for as long as the
hold lasted, to the span at most, and down for the rest, to 0 at most. So after as many ticks under the signal as the span, the
clock is held; and an engaged clock without its signal is idle after the delay and the span, and not before the delay and r. -/
theorem ramp_run_constant (h : Reachable t c) (n : ℕ) :
    let on := c.run t (List.replicate n true)
    let off := c.run t (List.replicate n false)
    on.ramp = min t.span (c.ramp + n) ∧ off.ramp = min t.span (c.ramp + min n c.hold) - (n - c.hold) ∧
      (t.span ≤ n → on.phase = .held) ∧
      (c.engaged = true →
        (t.delayTicks + t.span ≤ n → off.phase = .idle) ∧ (off.phase = .idle → t.delayTicks + c.ramp ≤ n)) := by
  intro on off
  have hon : on.ramp = min t.span (c.ramp + n) := (ramp_run_on h.wellFormed n).trans (min_comm _ _)
  have hoff : off.ramp = min t.span (c.ramp + min n c.hold) - (n - c.hold) := ramp_run_off h n
  refine ⟨hon, hoff, fun htop => ?_, fun hengaged => ?_⟩
  · rw [(h.run _).wellFormed.phase_iff.2, hon]
    omega
  · have hwhole : c.hold = t.delayTicks := (h.spent.whole hengaged).1
    have hramp : c.ramp ≤ t.span := h.wellFormed.ramp_le
    have hup : 0 < c.ramp := h.ramp_pos hengaged
    have hidle : off.phase = .idle ↔ off.ramp = 0 := (h.run _).wellFormed.phase_iff.1
    rw [hidle, hoff, hwhole]
    exact ⟨fun hend => by omega, fun hbottom => by omega⟩

/-- a barrier that takes four ticks to open and waits for two, called for two ticks: it still opens to the top while it waits, and
then comes down; the six ticks until it is down are all that its delay and its span allow -/
theorem ramp_run_constant_barrier :
    let t : Timing := ⟨4, 2⟩
    let c := fresh.perform t [.advance true, .advance false, .reset, .advance true, .advance true]
    Reachable t c ∧ c.engaged = true ∧ c.ramp = 2 ∧ (c.run t (List.replicate 2 false)).ramp = 4 ∧
      (c.run t (List.replicate 5 false)).ramp = 1 ∧ (c.run t (List.replicate 6 false)).phase = .idle ∧
      t.delayTicks + c.ramp ≤ 6 ∧ (c.run t (List.replicate 4 true)).phase = .held := by
  intro t c
  have h : Reachable t c := reachable_perform t _
  have hengaged : c.engaged = true := by decide
  obtain ⟨-, hwaited, -, -⟩ := ramp_run_constant h 2
  obtain ⟨-, hfell, -, -⟩ := ramp_run_constant h 5
  obtain ⟨-, -, -, hreleased⟩ := ramp_run_constant h 6
  obtain ⟨-, -, hheld, -⟩ := ramp_run_constant h 4
  have hidle := (hreleased hengaged).1 (by decide)
  exact ⟨h, hengaged, by decide, hwaited.trans (by decide), hfell.trans (by decide), hidle, (hreleased hengaged).2 hidle,
    hheld (by decide)⟩

end Stagecraft.Clock
