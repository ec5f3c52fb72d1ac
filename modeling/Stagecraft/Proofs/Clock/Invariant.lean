/-
What holds of a clock at every time, whatever its timing and whatever was done to it. The phase tells where the ramp stands, and
the ramp tells the phase: at the bottom it is idle, at the top it is held, and anywhere else it moves. A clock under its signal
has its whole hold and is not on the way down; one that is idle or on the way down has no signal and no hold left, because the
hold is spent before the ramp comes down.

- `perform_fresh`: a reset is a new start, so what counts of the acts is the signals since the last one.
- `Spent.advance`: one tick, and what it leaves of the hold.
- `advance?_eq`: one tick in words of 32 bits, in which no sum and no difference leaves the words.
- `stands_after_acts`: all of it, after any acts.
-/
import Mathlib.Tactic
import Stagecraft.Animation.Act
import Stagecraft.Number.Word
import Stagecraft.Proofs.Clock.Advance
import Stagecraft.Proofs.Clock.Settle

namespace Stagecraft.Clock

variable {t : Timing} {c : Clock}

/-! ## Signals -/

/-- the signals of a clock since it was new or reset, one per tick -/
def signals (acts : List Act) : List Bool :=
  acts.foldl (fun past a =>
    match a with
    | .advance signal => past ++ [signal]
    | .reset => []) []

theorem signals_advance (acts : List Act) (signal : Bool) :
    signals (acts ++ [.advance signal]) = signals acts ++ [signal] := by
  simp [signals]

theorem signals_reset (acts : List Act) : signals (acts ++ [.reset]) = [] := by
  simp [signals]

theorem perform_snoc (t : Timing) (c : Clock) (acts : List Act) (a : Act) :
    c.perform t (acts ++ [a]) = (c.perform t acts).act t a := by
  simp [perform]

/-- a new clock after acts is a new clock after the signals since the last reset -/
theorem perform_fresh (t : Timing) (acts : List Act) : fresh.perform t acts = fresh.run t (signals acts) := by
  induction acts using List.reverseRecOn with
  | nil => rfl
  | append_singleton acts a ih =>
    rw [perform_snoc, ih]
    cases a with
    | advance signal =>
      rw [signals_advance, run_snoc]
      rfl
    | reset =>
      rw [signals_reset]
      rfl

/-- the signal of the last tick, off before the first -/
def lastSignal (signals : List Bool) : Bool := signals.getLast?.getD false

theorem engaged_run (t : Timing) (signals : List Bool) : (fresh.run t signals).engaged = lastSignal signals := by
  induction signals using List.reverseRecOn with
  | nil => rfl
  | append_singleton signals signal _ =>
    rw [run_snoc, advance_engaged, lastSignal, List.getLast?_concat, Option.getD_some]

/-- a clock moves when it takes a signal that is not the one before -/
theorem moved_perform (t : Timing) (acts : List Act) :
    (fresh.perform t acts).moved = true ↔
      ∃ before signal, acts = before ++ [.advance signal] ∧ signal ≠ lastSignal (signals before) := by
  induction acts using List.reverseRecOn with
  | nil => simp [perform, fresh]
  | append_singleton acts a _ =>
    rw [perform_snoc, perform_fresh]
    cases a with
    | advance signal =>
      rw [act, advance_moved, engaged_run, bne_iff_ne]
      constructor
      · exact fun hnew => ⟨acts, signal, rfl, hnew⟩
      · rintro ⟨before, signal', hacts, hnew⟩
        obtain ⟨rfl, hlast⟩ := List.append_inj' hacts rfl
        cases hlast
        exact hnew
    | reset =>
      constructor
      · exact nofun
      · rintro ⟨before, signal, hacts, -⟩
        cases (List.append_inj' hacts rfl).2

/-! ## The hold -/

/-- the hold is whole under the signal, and spent before the ramp comes down -/
structure Spent (t : Timing) (c : Clock) : Prop where
  whole : c.engaged = true → c.hold = t.delayTicks ∧ (c.phase = .rampingUp ∨ c.phase = .held)
  spent : c.phase = .idle ∨ c.phase = .rampingDown → c.engaged = false ∧ c.hold = 0

namespace Spent

theorem fresh (t : Timing) : Spent t Clock.fresh := ⟨nofun, fun _ => ⟨rfl, rfl⟩⟩

/-- a clock that goes up or is held is not on the way down -/
theorem not_down (hup : c.phase = .rampingUp ∨ c.phase = .held) : ¬(c.phase = .idle ∨ c.phase = .rampingDown) := by
  rcases hup with hphase | hphase <;> simp [hphase]

/-- without the signal, there is only the hold to see to -/
theorem of_off (hoff : c.engaged = false) (hspent : c.phase = .idle ∨ c.phase = .rampingDown → c.hold = 0) : Spent t c :=
  ⟨fun hon => absurd (hoff.symm.trans hon) Bool.false_ne_true, fun hdown => ⟨hoff, hspent hdown⟩⟩

theorem phase_rampUp (t : Timing) (c : Clock) : (c.rampUp t).phase = .rampingUp ∨ (c.rampUp t).phase = .held := by
  unfold Clock.rampUp
  simp only
  split_ifs
  · exact .inr rfl
  · exact .inl rfl

/-- one tick up without the signal, whatever is left of the hold -/
theorem rampUp (hoff : c.engaged = false) : Spent t (c.rampUp t) :=
  of_off hoff fun hdown => absurd hdown (not_down (phase_rampUp t c))

/-- one tick under the signal -/
theorem engage (t : Timing) (c : Clock) : Spent t (c.engage t) := by
  have hphase : (c.engage t).phase = .rampingUp ∨ (c.engage t).phase = .held := by
    unfold Clock.engage
    simp only
    split_ifs with hheld
    · exact .inr hheld
    · exact phase_rampUp t _
  have hhold : (c.engage t).hold = t.delayTicks := by
    unfold Clock.engage
    simp only
    split_ifs <;> rfl
  exact ⟨fun _ => ⟨hhold, hphase⟩, fun hdown => absurd hdown (not_down hphase)⟩

/-- one tick without it -/
theorem release (hoff : c.engaged = false) (hspent : c.phase = .idle ∨ c.phase = .rampingDown → c.hold = 0) :
    Spent t (c.release t) := by
  unfold Clock.release
  cases hphase : c.phase with
  | idle => exact of_off hoff hspent
  | rampingDown => exact of_off hoff fun _ => hspent (.inr hphase)
  | rampingUp =>
    simp only
    split_ifs with hhold
    · exact rampUp hoff
    · exact of_off hoff fun _ => Nat.eq_zero_of_not_pos hhold
  | held =>
    simp only
    split_ifs with hhold
    · exact of_off hoff fun hdown => absurd hdown (not_down (.inr rfl))
    · exact of_off hoff fun _ => Nat.eq_zero_of_not_pos hhold

/-- one tick, with the signal on or off -/
theorem advance (h : Spent t c) (signal : Bool) : Spent t (c.advance t signal) := by
  unfold Clock.advance
  cases signal with
  | true => exact engage t _
  | false => exact release rfl fun hdown => (h.spent hdown).2

theorem run (h : Spent t c) (signals : List Bool) : Spent t (c.run t signals) :=
  run_keeps h fun _ signal hd => hd.advance signal

end Spent

/-! ## The ramp -/

/-- where the ramp stands, the phase is -/
theorem WellFormed.phase_iff (h : WellFormed t c) :
    (c.phase = .idle ↔ c.ramp = 0) ∧ (c.phase = .held ↔ c.ramp = t.span) := by
  have hspan := t.span_pos
  cases hphase : c.phase with
  | idle =>
    have hramp := h.ramp_idle hphase
    simp only [reduceCtorEq, true_iff, false_iff]
    omega
  | held =>
    have hramp := h.ramp_held hphase
    simp only [reduceCtorEq, true_iff, false_iff]
    omega
  | rampingUp =>
    have hramp := h.ramp_up hphase
    simp only [reduceCtorEq, false_iff]
    omega
  | rampingDown =>
    have hramp := h.ramp_down hphase
    simp only [reduceCtorEq, false_iff]
    omega

/-! ## In words of 32 bits -/

/-- one tick up, with the sum checked -/
def rampUp? (t : Timing) (c : Clock) : Option Clock := do
  let ramp := min (← Word.add? 32 c.ramp 1) t.span
  return { c with ramp, phase := if t.span ≤ ramp then .held else .rampingUp }

/-- one tick under the signal; the way down is saturated at the bottom, so that it is not checked -/
def engage? (t : Timing) (c : Clock) : Option Clock :=
  let c := { c with hold := t.delayTicks }
  if c.phase = .held then some c else c.rampUp? t

/-- one tick without it, with the difference checked -/
def release? (t : Timing) (c : Clock) : Option Clock :=
  match c.phase with
  | .idle => some c
  | .rampingDown => some c.rampDown
  | .rampingUp =>
    if 0 < c.hold then do
      let hold ← Word.sub? c.hold 1
      { c with hold }.rampUp? t
    else some c.rampDown
  | .held =>
    if 0 < c.hold then do
      let hold ← Word.sub? c.hold 1
      return { c with hold }
    else some c.rampDown

def advance? (t : Timing) (signal : Bool) (c : Clock) : Option Clock :=
  let c := { c with moved := signal != c.engaged, engaged := signal }
  if signal then c.engage? t else c.release? t

/-- acts in order, none as soon as a sum or a difference leaves the words -/
def perform? (t : Timing) (c : Clock) (acts : List Act) : Option Clock :=
  acts.foldlM (fun c a =>
    match a with
    | .advance signal => c.advance? t signal
    | .reset => some c.reset) c

/-- a span is a positive 32-bit number, and half of the words are beyond it -/
theorem span_lt_word (t : Timing) : t.span + 1 ≤ Word.last 32 := by
  have := t.duration.toInt_lt
  have hlast : Word.last 32 = 4294967295 := rfl
  unfold Timing.span Timing.durationTicks
  omega

theorem rampUp?_eq (hramp : c.ramp ≤ t.span) : c.rampUp? t = some (c.rampUp t) := by
  have hword := span_lt_word t
  rw [rampUp?, Word.add?_of_le (by omega)]
  rfl

theorem release?_eq (hramp : c.ramp ≤ t.span) : c.release? t = some (c.release t) := by
  unfold release? release
  cases hphase : c.phase with
  | idle => rfl
  | rampingDown => rfl
  | rampingUp =>
    simp only
    split_ifs with hhold
    · rw [Word.sub?_of_le hhold]
      exact rampUp?_eq hramp
    · rfl
  | held =>
    simp only
    split_ifs with hhold
    · rw [Word.sub?_of_le hhold]
      rfl
    · rfl

/-- a tick in words is a tick, as long as the ramp is not past the span -/
theorem advance?_eq (hramp : c.ramp ≤ t.span) (signal : Bool) : c.advance? t signal = some (c.advance t signal) := by
  unfold advance? advance
  cases signal with
  | true =>
    simp only [if_true, engage?, engage]
    split_ifs
    · rfl
    · exact rampUp?_eq hramp
  | false => exact release?_eq hramp

theorem perform?_fresh (t : Timing) (acts : List Act) : fresh.perform? t acts = some (fresh.perform t acts) := by
  induction acts using List.reverseRecOn with
  | nil => rfl
  | append_singleton acts a ih =>
    rw [perform?, List.foldlM_append, ← perform?, ih, perform_snoc, perform_fresh]
    cases a with
    | advance signal =>
      have hramp := ((WellFormed.fresh t).run (signals acts)).ramp_le
      simpa [act] using advance?_eq hramp signal
    | reset => rfl

/-! ## Main result -/

/-- **A clock at every time.** After any acts on a new clock, whatever its timing: the ramp is between 0 and the span; the clock is
idle if and only if its ramp is at 0, and held if and only if it is at the span; it holds for no longer than the delay; engaged, it
has the whole delay before it, and goes up or is held; idle or on the way down, it is not engaged and has no hold left; it has
moved if and only if the last act was a tick under another signal than the one before since the clock was new or reset, off before
the first; and in words of 32 bits no sum and no difference on the way here left the words. -/
theorem stands_after_acts (t : Timing) (acts : List Act) :
    let c := fresh.perform t acts
    c.ramp ≤ t.span ∧ (c.phase = .idle ↔ c.ramp = 0) ∧ (c.phase = .held ↔ c.ramp = t.span) ∧ c.hold ≤ t.delayTicks ∧
      (c.engaged = true → c.hold = t.delayTicks ∧ (c.phase = .rampingUp ∨ c.phase = .held)) ∧
      (c.phase = .idle ∨ c.phase = .rampingDown → c.engaged = false ∧ c.hold = 0) ∧
      (c.moved = true ↔
        ∃ before signal, acts = before ++ [.advance signal] ∧ signal ≠ lastSignal (signals before)) ∧
      fresh.perform? t acts = some c := by
  intro c
  have hrun : c = fresh.run t (signals acts) := perform_fresh t acts
  have hformed : WellFormed t c := hrun ▸ (WellFormed.fresh t).run (signals acts)
  have hspent : Spent t c := hrun ▸ (Spent.fresh t).run (signals acts)
  exact ⟨hformed.ramp_le, hformed.phase_iff.1, hformed.phase_iff.2, hformed.hold_le, hspent.whole, hspent.spent,
    moved_perform t acts, perform?_fresh t acts⟩

/-- a bridge that takes two ticks to rise and waits for one: called again after a reset and let go of at once, it still rises to the
top in the tick that it waits, and comes down in the next, with nothing left to wait for -/
theorem stands_after_acts_bridge :
    let t : Timing := ⟨2, 1⟩
    let waiting := fresh.perform t [.advance true, .reset, .advance true, .advance false]
    let c := waiting.act t (.advance false)
    waiting.phase = .held ∧ waiting.ramp = 2 ∧ waiting.moved = true ∧ c.phase = .rampingDown ∧ c.ramp = 1 ∧
      c.ramp ≤ t.span ∧ c.engaged = false ∧ c.hold = 0 ∧ c.moved = false := by
  intro t waiting c
  obtain ⟨-, -, htop, -, -, -, hmoved, -⟩ := stands_after_acts t [.advance true, .reset, .advance true, .advance false]
  obtain ⟨hramp, -, -, -, -, hspent, -, -⟩ :=
    stands_after_acts t [.advance true, .reset, .advance true, .advance false, .advance false]
  have hheld : waiting.phase = .held := by decide
  have hdown : c.phase = .rampingDown := by decide
  obtain ⟨hoff, hhold⟩ := hspent (.inr hdown)
  exact ⟨hheld, htop.1 hheld, hmoved.2 ⟨[.advance true, .reset, .advance true], false, rfl, by decide⟩, hdown, by decide, hramp,
    hoff, hhold, by decide⟩

end Stagecraft.Clock
