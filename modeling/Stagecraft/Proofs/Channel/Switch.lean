/-
A gate that one flag switches: a single untimed visibility that a 1 opens and a 0 closes. Its clock holds nothing but whether
the flag was on in the pass before, so the gate is open while the flag is on and moves when the flag changes. As long as the
flag was never declared it has no value, and then the gate stays closed and still.

- `switch_of_range`: without axis and offset, the range from 1 to 1 makes such a gate.
- `gate_switch`: one pass.
-/
import Mathlib.Tactic
import Stagecraft.Proofs.Channel.Edge

namespace Stagecraft

/-- an untimed gate that a flag opens while it is on and closes while it is off -/
structure Animation.Switch (a : Animation Float) : Prop where
  plain : a.PlainGate
  on : a.signal (Float.ofNat 1) = true
  off : a.signal (Float.ofNat 0) = false

theorem Animation.switch_of_range (a : Animation Float) (hplain : a.PlainGate) (haxis : a.axis = none) (hoffset : a.offset = 0)
    (hmin : a.clampMin = 1) (hmax : a.clampMax = 1) : a.Switch := by
  have hsignal : ∀ raw, a.signal raw = a.inRange (0 + a.rectify raw) := by
    intro raw
    rw [a.signal_gate (by rw [hplain.1]; rfl)]
    simp only [passes, hplain.1, Shape.apply, haxis, hoffset]
  refine ⟨hplain, ?_, ?_⟩
  · rw [hsignal, Shape.inRange, Shape.rectify, hmin, hmax]
    cases a.absolute <;> decide +kernel
  · rw [hsignal, Shape.inRange, Shape.rectify, hmin, hmax]
    cases a.absolute <;> decide +kernel

/-- what a flag says in a pass: 1 or 0, or nothing as long as it was never declared -/
def SaysOf (on : Bool) (engaged : Bool) : Option Float → Prop
  | some value => value = if on then Float.ofNat 1 else Float.ofNat 0
  | none => on = false ∧ engaged = false

/-- the sample of a switch in a pass -/
theorem Track.sample_switch (t : Track) (ht : t.animation.Switch) (lookup : String → Option Float) (on : Bool)
    (htold : SaysOf on t.clock.engaged (lookup t.animation.source)) :
    let r := t.sample ⟨.tick, lookup⟩ (Float.ofNat 0)
    r.1 = { t with clock := r.1.clock } ∧ r.1.clock.engaged = on ∧ t.animation.passes r.2.value = on ∧
      r.2.moved = (on != t.clock.engaged) := by
  obtain ⟨hplain, hon, hoff⟩ := ht
  have hgate : t.animation.kind.isGate = true := by rw [hplain.1]; rfl
  have hsmooth := Timing.smooths_eq_false hplain.2.1 hplain.2.2
  set value : Float := if on then Float.ofNat 1 else Float.ofNat 0 with hvalue
  have hsignal : t.animation.signal value = on := by
    cases on
    · exact hoff
    · exact hon
  -- with a value or without, the clock takes the flag for its signal, and the gate tests a 1 or a 0
  have hinput : ∃ raw, t.input ((⟨.tick, lookup⟩ : Sampling).resolve t.animation.source) = (raw, on) ∧
      t.animation.passes (t.animation.apply (Float.ofNat 0) raw) = on := by
    cases hanswer : lookup t.animation.source with
    | none =>
      rw [hanswer] at htold
      obtain ⟨rfl, hengaged⟩ := htold
      have hresolve : (⟨.tick, lookup⟩ : Sampling).resolve t.animation.source = none := by
        simp [Sampling.resolve, hanswer]
      exact ⟨Float.ofNat 0, by rw [hresolve, input, hengaged], (t.animation.signal_gate hgate _).symm.trans hoff⟩
    | some answer =>
      rw [hanswer] at htold
      obtain rfl : answer = value := htold
      have hnumber : value.isNaN = false := by
        rw [hvalue]
        cases on <;> decide +kernel
      have hresolve := Sampling.resolve_answer hnumber hanswer
      exact ⟨value, by rw [hresolve, input, hsignal], (t.animation.signal_gate hgate _).symm.trans hsignal⟩
  obtain ⟨raw, hraw, hpasses⟩ := hinput
  simp [sample, hraw, Clock.effective_of_not_smooths _ hsmooth, hpasses]

/-- **One pass.** The gate of a switch is open while its flag is on, and moves if the flag was not so in the pass before. -/
theorem Channel.gate_switch (t : Track) (ht : t.animation.Switch) (lookup : String → Option Float) (on : Bool)
    (htold : SaysOf on t.clock.engaged (lookup t.animation.source)) :
    ∃ clock : Clock, clock.engaged = on ∧ Channel.gate ⟨.tick, lookup⟩ [t] =
      ⟨⟨on, false, on != t.clock.engaged⟩, [{ t with clock }], [t.animation.source]⟩ := by
  obtain ⟨hsame, hengaged, hpasses, hmoved⟩ := t.sample_switch ht lookup on htold
  have hkind := ht.plain.1
  have hr : Sweep.reads Use.gate false t.animation.kind = true := by rw [hkind]; rfl
  have hsampled := Sweep.sampled_gate ⟨.tick, lookup⟩ { sum := () } t
  have hnext := Sweep.next_visibility ⟨.tick, lookup⟩ { sum := () } 0 t hkind
  rw [hsampled, hpasses, hmoved, Bool.false_or] at hnext
  refine ⟨_, hengaged, ?_⟩
  rw [← hsame]
  cases on with
  | false =>
    have hrun := Sweep.run_close ⟨.tick, lookup⟩ Use.gate { sum := () } 0 t [] hr (by rw [hnext])
    rw [hnext, hsampled] at hrun
    rw [Channel.gate, Channel.evaluate, hrun]
  | true =>
    have hrun := Sweep.run_go ⟨.tick, lookup⟩ Use.gate { sum := () } 0 t [] hr (by rw [hnext])
    rw [hnext, hsampled] at hrun
    rw [Channel.gate, Channel.evaluate, hrun]
    rfl

end Stagecraft
