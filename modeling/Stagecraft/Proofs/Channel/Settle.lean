/-
What a smoothed gate decides once its variable stays. The clock comes to rest at the top or at the bottom as the variable
passes the raw test or not, and from then on the gate tests the level 1 or the level 0 in place of the variable. A range
that is written for the variable need not hold the level 1, nor keep the level 0 out: smoothing leaves the decision as it
was just where it does.

- `Track.settled`: the decision of a settled gate.
- `Track.settles_as_written`: when it is the decision of the gate without smoothing.
-/
import Mathlib.Tactic
import Stagecraft.Animation.Validation
import Stagecraft.Proofs.Channel.Sweep
import Stagecraft.Proofs.Clock.Advance
import Stagecraft.Proofs.Clock.Settle

namespace Stagecraft

/-- the same animation without smoothing -/
def Animation.unsmoothed (a : Animation Float) : Animation Float := { a with duration := 0, delay := 0 }

namespace Track

/-! ## Ticks of one track -/

/-- the track after ticks, each with its answers -/
def after (t : Track) (lookups : List (String → Option Float)) : Track :=
  lookups.foldl (fun t lookup => (t.sample ⟨.tick, lookup⟩ (Float.ofNat 0)).1) t

/-- the gate test of the sample that a tick takes -/
def test (t : Track) (lookup : String → Option Float) : Bool :=
  t.animation.passes (t.sample ⟨.tick, lookup⟩ (Float.ofNat 0)).2.value

/-- the same track without smoothing -/
def unsmoothed (t : Track) : Track := { t with animation := t.animation.unsmoothed }

/-- ticks with one answer are ticks of the clock with one signal -/
theorem after_constant (t : Track) {lookups : List (String → Option Float)} {c : Float} (hc : c.isNaN = false)
    (hall : ∀ lookup ∈ lookups, lookup t.animation.source = some c) :
    t.after lookups =
      { t with clock := t.clock.run t.animation.toTiming (List.replicate lookups.length (t.animation.signal c)) } := by
  induction lookups generalizing t with
  | nil => rfl
  | cons lookup lookups ih =>
    have hfirst := t.sample_answer (Float.ofNat 0) (Sampling.resolve_answer hc (hall lookup List.mem_cons_self))
    simp only at hfirst
    rw [after, List.foldl_cons, hfirst]
    exact ih _ fun other hother => hall other (List.mem_cons_of_mem _ hother)

/-- the test of the track without smoothing is the test that gives the signal -/
theorem test_unsmoothed (t : Track) (hgate : t.animation.kind.isGate = true) {lookup : String → Option Float} {c : Float}
    (hc : c.isNaN = false) (hlookup : lookup t.animation.source = some c) :
    t.unsmoothed.test lookup = t.animation.signal c := by
  have hsample := t.unsmoothed.sample_answer (Float.ofNat 0) (Sampling.resolve_answer hc hlookup)
  have hnone : t.unsmoothed.animation.smooths = false := rfl
  simp only [Clock.effective_of_not_smooths _ hnone] at hsample
  rw [t.animation.signal_gate hgate, test, hsample]
  rfl

/-! ## At rest -/

/-- the level at which a clock comes to rest under a signal -/
def restLevel (signal : Bool) : Float := if signal then Float.ofNat 1 else Float.ofNat 0

/-- without an axis, a level at rest is not shaped -/
theorem apply_restLevel {s : Shape Float} (haxis : s.axis = none) (signal : Bool) :
    s.apply (Float.ofNat 0) (restLevel signal) = restLevel signal := by
  have habs : Scalar.abs (restLevel signal) = restLevel signal := by cases signal <;> decide +kernel
  simp [Shape.apply, haxis, Shape.rectify, habs]

/-- **A settled gate.** When its variable has stayed for the span and the delay, a gate without an axis tests the level at
which its clock rests, or the variable itself if it does not smooth. -/
theorem settled (t : Track) (hgate : t.animation.kind.isGate = true) (haxis : t.animation.axis = none)
    (hclock : t.clock.Reachable t.animation.toTiming) {c : Float} (hc : c.isNaN = false)
    (lookups : List (String → Option Float)) (lookup : String → Option Float)
    (hall : ∀ l ∈ lookups ++ [lookup], l t.animation.source = some c)
    (hlong : t.animation.span + t.animation.delayTicks ≤ lookups.length + 1) :
    (t.after lookups).test lookup =
      if t.animation.smooths then t.animation.passes (restLevel (t.unsmoothed.test lookup))
      else t.unsmoothed.test lookup := by
  have hlast : lookup t.animation.source = some c := hall lookup (by simp)
  have hstays := t.after_constant hc fun l hl => hall l (List.mem_append_left _ hl)
  have hanswer : lookup (t.after lookups).animation.source = some c := by
    rw [hstays]
    exact hlast
  have hsample := (t.after lookups).sample_answer (Float.ofNat 0) (Sampling.resolve_answer hc hanswer)
  rw [t.test_unsmoothed hgate hc hlast, test, hsample, hstays]
  -- the clock after the last tick has seen the signal once more
  simp only [← Clock.run_snoc, ← List.replicate_succ']
  cases hsmooths : t.animation.smooths with
  | false =>
    rw [Clock.effective_of_not_smooths _ hsmooths, if_neg Bool.false_ne_true, t.animation.signal_gate hgate]
  | true =>
    have hlevel := Clock.level_settled hclock t.curve (t.animation.signal c) (lookups.length + 1) hlong
    rw [Clock.effective, if_pos hsmooths, if_pos rfl, hlevel]
    exact congrArg t.animation.passes (apply_restLevel haxis _)

/-- **Smoothing and the settled decision.** A gate that has settled decides as the same gate without smoothing if and only if
its range decides about the level at rest as it decides about the variable, or there is no smoothing. -/
theorem settles_as_written (t : Track) (hgate : t.animation.kind.isGate = true) (haxis : t.animation.axis = none)
    (hclock : t.clock.Reachable t.animation.toTiming) {c : Float} (hc : c.isNaN = false)
    (lookups : List (String → Option Float)) (lookup : String → Option Float)
    (hall : ∀ l ∈ lookups ++ [lookup], l t.animation.source = some c)
    (hlong : t.animation.span + t.animation.delayTicks ≤ lookups.length + 1) :
    (t.after lookups).test lookup = t.unsmoothed.test lookup ↔
      (t.animation.smooths = true →
        t.animation.passes (restLevel (t.unsmoothed.test lookup)) = t.unsmoothed.test lookup) := by
  rw [t.settled hgate haxis hclock hc lookups lookup hall hlong]
  cases t.animation.smooths <;> simp

/-- a gauge that shows from 1 to 10, fades in three ticks and stays for two, found while it fades out -/
def gauge : Track where
  animation := { Animation.plain .visibility "charge" with clampMin := 1, clampMax := 10, duration := 3, delay := 2 }
  curve := .smoothStep
  clock := Clock.fresh.run ⟨3, 2⟩ [true, true, true, false, false, false]

/-- a range that holds 1 and not 0 keeps the decision of the gauge -/
theorem settles_as_written_gauge :
    let charged : String → Option Float := fun _ => some 7
    gauge.animation.isValid = true ∧ gauge.clock.phase = .rampingDown ∧
      (gauge.after (List.replicate 4 charged)).test charged = gauge.unsmoothed.test charged := by
  intro charged
  have hall : ∀ l ∈ List.replicate 4 charged ++ [charged], l gauge.animation.source = some 7 := by
    intro l hl
    rw [← List.replicate_succ'] at hl
    rw [List.eq_of_mem_replicate hl]
  refine ⟨by decide +kernel, by decide +kernel, ?_⟩
  exact (gauge.settles_as_written rfl rfl ⟨_, rfl⟩ (by decide +kernel) _ charged hall (by decide +kernel)).2
    fun _ => by decide +kernel

/-- a needle that shows from 2 to 3 -/
def needle : Track where
  animation := { Animation.plain .visibility "v" with clampMin := 2, clampMax := 3, duration := 1 }
  curve := .linear

/-- **A range out of reach.** The needle is a valid gate with a new clock, and its variable stays at 2 for twice as long as
it takes; it stays hidden, where without its ramp it shows. -/
theorem needle_stays_hidden :
    let steady : String → Option Float := fun _ => some 2
    needle.animation.isValid = true ∧ needle.animation.kind = .visibility ∧ needle.animation.axis = none ∧
      needle.clock.Reachable needle.animation.toTiming ∧
      needle.animation.span + needle.animation.delayTicks + 1 = (List.replicate 1 steady ++ [steady]).length ∧
      (needle.after (List.replicate 1 steady)).test steady = false ∧ needle.unsmoothed.test steady = true := by
  intro steady
  exact ⟨by decide +kernel, rfl, rfl, ⟨[], rfl⟩, by decide +kernel, by decide +kernel, by decide +kernel⟩

end Track

end Stagecraft
