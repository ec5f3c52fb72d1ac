/-
Debouncing. A signal that drops out and is back within the delay leaves no trace on a clock: neither on the way up, where the ramp
goes on while the hold is used, nor at the top. The hold is renewed whenever the signal is back, so any number of such gaps is
absorbed, and the ramp shows the number of ticks alone.

- `Sustained`: signals under which no tick finds the clock without its signal and without hold. `Sustained.ramp_eq`,
  `Sustained.phase_on`: they all leave a new clock alike.
- `Gap`: a stretch without the signal. `sustained_of_gaps`: a clock is sustained if no gap is longer than the delay.
- `debounced`: both together; and one tick more than the delay is too many.
-/
import Mathlib.Tactic
import Stagecraft.Proofs.Clock.Counters

namespace Stagecraft.Clock

variable {t : Timing} {c : Clock} {signals : List Bool}

/-! ## Signals that sustain a clock -/

/-- every tick comes under the signal, or finds some hold left -/
def Sustained (t : Timing) (signals : List Bool) : Prop :=
  ∀ before signal, before ++ [signal] <+: signals → signal = true ∨ 0 < (fresh.run t before).hold

theorem sustained_on (t : Timing) (n : ℕ) : Sustained t (List.replicate n true) := by
  intro before signal hinitial
  exact .inl (List.eq_of_mem_replicate (hinitial.subset (by simp)))

/-- the next tick of a sustained clock is a tick up -/
theorem Sustained.risen (h : Sustained t signals) {k : ℕ} (hk : k < signals.length) :
    Risen t (fresh.run t (signals.take k)).ramp (fresh.run t (signals.take (k + 1))) := by
  have htake : signals.take k ++ [signals[k]] = signals.take (k + 1) := List.take_append_getElem hk
  have hnext := h (signals.take k) signals[k] (htake ▸ List.take_prefix _ _)
  rw [← htake, run_snoc]
  exact rises ((reachable_fresh t).run _) hnext

theorem Sustained.ramp_eq (h : Sustained t signals) {k : ℕ} (hk : k ≤ signals.length) :
    (fresh.run t (signals.take k)).ramp = min k t.span := by
  induction k with
  | zero => exact (Nat.zero_min _).symm
  | succ k ih =>
    rw [(h.risen hk).ramp_eq, ih (Nat.le_of_succ_le hk)]
    omega

theorem Sustained.phase_eq (h : Sustained t signals) {k : ℕ} (hk : k + 1 ≤ signals.length) :
    (fresh.run t (signals.take (k + 1))).phase = if t.span ≤ k + 1 then .held else .rampingUp := by
  have htop : t.span ≤ min k t.span + 1 ↔ t.span ≤ k + 1 := by omega
  rw [(h.risen hk).phase_eq, h.ramp_eq (Nat.le_of_succ_le hk)]
  simp only [htop]

/-- a sustained clock is where it would be under the signal throughout -/
theorem Sustained.phase_on (h : Sustained t signals) {k : ℕ} (hk : k ≤ signals.length) :
    (fresh.run t (signals.take k)).phase = (fresh.run t (List.replicate k true)).phase := by
  cases k with
  | zero => rfl
  | succ k =>
    have hon := (sustained_on t (k + 1)).phase_eq List.length_replicate.ge
    rw [List.take_of_length_le List.length_replicate.le] at hon
    rw [h.phase_eq hk, hon]

/-! ## Gaps -/

/-- there is a stretch of `n` ticks without the signal, from one end to the other -/
def Gap (signals : List Bool) (n : ℕ) : Prop :=
  ∃ before after, signals = before ++ List.replicate n false ++ after ∧ before.getLast? ≠ some false ∧
    after.head? ≠ some false

/-- a gap holds every shorter stretch without the signal -/
theorem Gap.replicate_infix {n m : ℕ} (h : Gap signals n) (hm : m ≤ n) : List.replicate m false <:+: signals := by
  obtain ⟨before, after, rfl, -, -⟩ := h
  have hinitial : List.replicate m false <+: List.replicate n false := by
    rw [List.prefix_replicate_iff]
    exact ⟨by simpa using hm, by simp⟩
  exact hinitial.isInfix.trans ⟨before, after, rfl⟩

/-- the stretch without the signal that some signals begin with -/
theorem exists_gap_ahead (signals : List Bool) :
    ∃ n after, signals = List.replicate n false ++ after ∧ after.head? ≠ some false := by
  induction signals with
  | nil => exact ⟨0, [], rfl, nofun⟩
  | cons signal signals ih =>
    cases signal with
    | true => exact ⟨0, true :: signals, rfl, by simp⟩
    | false =>
      obtain ⟨n, after, hsplit, hafter⟩ := ih
      refine ⟨n + 1, after, ?_, hafter⟩
      rw [hsplit, List.replicate_succ, List.cons_append]

/-- the last tick under the signal, and the stretch without it since -/
theorem exists_gap_behind (hstart : signals.head? = some true) :
    ∃ before n, signals = before ++ [true] ++ List.replicate n false := by
  induction signals using List.reverseRecOn with
  | nil => cases hstart
  | append_singleton signals signal ih =>
    cases signal with
    | true => exact ⟨signals, 0, by simp⟩
    | false =>
      have hsome : signals ≠ [] := by
        rintro rfl
        cases hstart
      rw [List.head?_append_of_ne_nil _ hsome] at hstart
      obtain ⟨before, n, hsplit⟩ := ih hstart
      refine ⟨before, n + 1, ?_⟩
      rw [hsplit, List.replicate_succ', List.append_assoc _ _ [false]]

/-- what the stretch since the last tick under the signal has left of the hold -/
theorem hold_since (t : Timing) (before : List Bool) (n : ℕ) :
    (fresh.run t (before ++ [true] ++ List.replicate n false)).hold = t.delayTicks - n := by
  have hreachable := (reachable_fresh t).run before
  have hrun : fresh.run t (before ++ [true] ++ List.replicate n false) =
      ((fresh.run t before).advance t true).run t (List.replicate n false) := by
    simp [run]
  rw [hrun, hold_run_off (hreachable.advance true), hold_advance hreachable, if_pos rfl]

/-- **Gaps within the delay.** From its first tick under the signal on, a clock is sustained if no gap is longer than the delay. -/
theorem sustained_of_gaps (hstart : signals.head? = some true) (hgaps : ∀ n, Gap signals n → n ≤ t.delayTicks) :
    Sustained t signals := by
  rintro before signal ⟨rest, rfl⟩
  cases signal with
  | true => exact .inl rfl
  | false =>
    have hsome : before ≠ [] := by
      rintro rfl
      cases hstart
    rw [List.append_assoc, List.head?_append_of_ne_nil _ hsome] at hstart
    obtain ⟨earlier, n, rfl⟩ := exists_gap_behind hstart
    obtain ⟨m, after, rfl, hafter⟩ := exists_gap_ahead rest
    -- the tick without the signal belongs to a gap that began `n` ticks ago and goes on for `m`
    have hgap : Gap (earlier ++ [true] ++ List.replicate n false ++ [false] ++ (List.replicate m false ++ after))
        (n + 1 + m) := by
      refine ⟨earlier ++ [true], after, ?_, by simp, hafter⟩
      rw [List.replicate_add, List.replicate_add]
      simp
    have hwithin := hgaps _ hgap
    right
    rw [hold_since]
    omega

/-! ## Main result -/

/-- **Debouncing.** Under signals that begin with the signal on and in which no gap is longer than the delay, a new clock stands after
every tick as it would under the signal throughout: the ramp is the number of ticks, or the span if that is less, and the phase is
the same. No longer gap would do: an engaged clock at the top keeps its ramp for as many ticks without the signal as its delay has,
and loses one tick of it in the next. -/
theorem debounced (t : Timing) {signals : List Bool} (hstart : signals.head? = some true)
    (hgaps : ∀ n, Gap signals n → n ≤ t.delayTicks) :
    (∀ k ≤ signals.length,
      let c := fresh.run t (signals.take k)
      c.ramp = min k t.span ∧ c.phase = (fresh.run t (List.replicate k true)).phase) ∧
      ∀ c, Reachable t c → c.engaged = true → c.phase = .held →
        (c.run t (List.replicate t.delayTicks false)).ramp = c.ramp ∧
          (c.run t (List.replicate (t.delayTicks + 1) false)).ramp + 1 = c.ramp := by
  have hsustained := sustained_of_gaps hstart hgaps
  refine ⟨fun k hk => ⟨hsustained.ramp_eq hk, hsustained.phase_on hk⟩, fun c hc hengaged hheld => ?_⟩
  have hspan := t.span_pos
  have htop : c.ramp = t.span := hc.wellFormed.ramp_held hheld
  have hwhole : c.hold = t.delayTicks := (hc.spent.whole hengaged).1
  rw [ramp_run_off hc, ramp_run_off hc, htop, hwhole]
  omega

/-- a beacon that takes three ticks to light up and waits for two, under a loose contact: it is out for a tick on the way up and for
two at the top, and still it is lit after three ticks and at the end; out for three ticks, it would dim -/
theorem debounced_beacon :
    let t : Timing := ⟨3, 2⟩
    let signals := [true, false, true, true, false, false, true]
    (∀ n, Gap signals n → n ≤ t.delayTicks) ∧ (fresh.run t (signals.take 2)).ramp = 2 ∧
      (fresh.run t (signals.take 3)).phase = (fresh.run t [true, true, true]).phase ∧ (fresh.run t signals).ramp = 3 ∧
      ((fresh.run t signals).run t (List.replicate 2 false)).ramp = 3 ∧
      ((fresh.run t signals).run t (List.replicate 3 false)).ramp = 2 := by
  intro t signals
  have hgaps : ∀ n, Gap signals n → n ≤ t.delayTicks := by
    intro n hgap
    have hthree : ¬List.replicate 3 false <:+: signals := by decide
    by_contra hlong
    exact hthree (hgap.replicate_infix (not_le.1 hlong))
  have hstart : signals.head? = some true := rfl
  obtain ⟨hticks, hfull⟩ := debounced t hstart hgaps
  obtain ⟨hkept, hlost⟩ := hfull (fresh.run t signals) ((reachable_fresh t).run signals) (by decide) (by decide)
  have hlit : (fresh.run t signals).ramp = 3 := (hticks 7 le_rfl).1
  exact ⟨hgaps, (hticks 2 (by decide)).1, (hticks 3 (by decide)).2, hlit, hkept.trans hlit, Nat.succ.inj (hlost.trans hlit)⟩

end Stagecraft.Clock
