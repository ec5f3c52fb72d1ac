/-
How a sweep goes over one track, and reading a channel again.

- `sample_answer`: what a tick makes of an answer.
- `run_skip`, `run_close`, `run_go`: the three things that can happen at the next track. It is not read; it is read and
  closes the gate; it is read and the sweep goes on.
- `run_animations`: the channel after a sweep holds the animations of the channel before it.
- `run_again`: a frame over the channel that a tick left, with the same answers, ends as the tick ended.
-/
import Mathlib.Tactic
import Stagecraft.Channel.Evaluation

namespace Stagecraft

/-! ## One track -/

/-- the signal of a gate is the test of its raw value -/
theorem Animation.signal_gate (a : Animation Float) (hgate : a.kind.isGate = true) (raw : Float) :
    a.signal raw = a.passes (a.apply (Float.ofNat 0) raw) := if_pos hgate

/-- a number that is no NaN is an answer -/
theorem Sampling.resolve_answer {lookup : String → Option Float} {name : String} {c : Float} (hc : c.isNaN = false)
    (hlookup : lookup name = some c) : (⟨.tick, lookup⟩ : Sampling).resolve name = some c := by
  have hkept : (!c.isNaN) = true := by rw [hc]; rfl
  change (lookup name).filter (fun v => !v.isNaN) = some c
  rw [hlookup]
  exact if_pos hkept

namespace Track

/-- a track keeps its animation when it is sampled -/
@[simp] theorem sample_animation (s : Sampling) (stacking : Float) (t : Track) :
    (t.sample s stacking).1.animation = t.animation := rfl

/-- a tick with an answer hands the signal of the answer to the clock, and samples the clock after it -/
theorem sample_answer (t : Track) {lookup : String → Option Float} (stacking : Float) {raw : Float}
    (hraw : (⟨.tick, lookup⟩ : Sampling).resolve t.animation.source = some raw) :
    t.sample ⟨.tick, lookup⟩ stacking =
      let clock := t.clock.advance t.animation.toTiming (t.animation.signal raw)
      ({ t with clock },
        ⟨t.animation.apply stacking (clock.effective t.curve t.animation.toTiming raw), clock.moved⟩) := by
  simp only [sample, hraw, input]

/-- a frame samples a track as the tick before it did, with the same answer, and leaves it alone -/
theorem sample_again (lookup : String → Option Float) (stacking : Float) (t : Track) :
    (t.sample ⟨.tick, lookup⟩ stacking).1.sample ⟨.frame, lookup⟩ stacking = t.sample ⟨.tick, lookup⟩ stacking := by
  -- the answer alone decides the raw value; the signal may differ, but it moves no clock in a frame
  simp only [sample, Sampling.resolve]
  cases (lookup t.animation.source).filter fun v => !v.isNaN <;> rfl

end Track

/-! ## One step of a sweep -/

namespace Sweep

variable {σ : Type}

/-- the track that a sweep reads next, after it was sampled, and its sample -/
def sampled (s : Sampling) (use : Use σ) (p : Progress σ) (t : Track) : Track × Sample :=
  t.sample s (stacking use p.sum t.animation)

/-- the progress after the track that a sweep reads next, and whether the gate is still open -/
def next (s : Sampling) (use : Use σ) (p : Progress σ) (index : Nat) (t : Track) : Progress σ × Bool :=
  after use p index t.animation (sampled s use p t).2

theorem run_skip (s : Sampling) (use : Use σ) (p : Progress σ) (index : Nat) (t : Track) (rest : Channel)
    (hr : reads use p.inhibited t.animation.kind = false) :
    run s use p index (t :: rest) =
      { run s use p (index + 1) rest with channel := t :: (run s use p (index + 1) rest).channel } := by
  simp [run, hr]

theorem run_close (s : Sampling) (use : Use σ) (p : Progress σ) (index : Nat) (t : Track) (rest : Channel)
    (hr : reads use p.inhibited t.animation.kind = true) (hn : (next s use p index t).2 = false) :
    run s use p index (t :: rest) =
      ⟨⟨false, (next s use p index t).1.inhibited, (next s use p index t).1.moved⟩, (next s use p index t).1.sum,
        (sampled s use p t).1 :: rest, [t.animation.source]⟩ := by
  rcases hq : next s use p index t with ⟨q, stays⟩
  obtain rfl : stays = false := by rw [hq] at hn; exact hn
  simp only [next, sampled] at hq
  simp [run, hr, hq, sampled]

theorem run_go (s : Sampling) (use : Use σ) (p : Progress σ) (index : Nat) (t : Track) (rest : Channel)
    (hr : reads use p.inhibited t.animation.kind = true) (hn : (next s use p index t).2 = true) :
    run s use p index (t :: rest) =
      { run s use (next s use p index t).1 (index + 1) rest with
        channel := (sampled s use p t).1 :: (run s use (next s use p index t).1 (index + 1) rest).channel
        asked := t.animation.source :: (run s use (next s use p index t).1 (index + 1) rest).asked } := by
  rcases hq : next s use p index t with ⟨q, stays⟩
  obtain rfl : stays = true := by rw [hq] at hn; exact hn
  simp only [next, sampled] at hq
  simp [run, hr, hq, sampled]

/-- a track that is read is asked for -/
theorem source_mem_asked (s : Sampling) (use : Use σ) (p : Progress σ) (index : Nat) (t : Track) (rest : Channel)
    (hr : reads use p.inhibited t.animation.kind = true) :
    t.animation.source ∈ (run s use p index (t :: rest)).asked := by
  cases hn : (next s use p index t).2 with
  | false =>
    rw [run_close s use p index t rest hr hn]
    exact List.mem_cons_self
  | true =>
    rw [run_go s use p index t rest hr hn]
    exact List.mem_cons_self

/-- a sweep keeps every animation at its place -/
theorem run_animations (s : Sampling) (use : Use σ) (p : Progress σ) (index : Nat) (c : Channel) :
    (run s use p index c).channel.map (·.animation) = c.map (·.animation) := by
  induction c generalizing p index with
  | nil => rfl
  | cons t rest ih =>
    cases hr : reads use p.inhibited t.animation.kind with
    | false => rw [run_skip s use p index t rest hr, List.map_cons, List.map_cons, ih]
    | true =>
      cases hn : (next s use p index t).2 with
      | false =>
        rw [run_close s use p index t rest hr hn]
        rfl
      | true =>
        rw [run_go s use p index t rest hr hn, List.map_cons, List.map_cons, ih]
        rfl

/-! ## Reading again -/

/-- **Reading again.** A frame over the channel that a tick left ends as the tick ended: the same gate and sum, the same
names asked for, and the channel as it was. -/
theorem run_again (lookup : String → Option Float) (use : Use σ) (p : Progress σ) (index : Nat) (c : Channel) :
    run ⟨.frame, lookup⟩ use p index (run ⟨.tick, lookup⟩ use p index c).channel =
      run ⟨.tick, lookup⟩ use p index c := by
  induction c generalizing p index with
  | nil => rfl
  | cons t rest ih =>
    cases hr : reads use p.inhibited t.animation.kind with
    | false =>
      rw [run_skip ⟨.tick, lookup⟩ use p index t rest hr]
      simp only
      rw [run_skip ⟨.frame, lookup⟩ use p index t _ hr, ih]
    | true =>
      -- the track after the tick is read under the same conditions, and its sample is the same
      set t' := (sampled ⟨.tick, lookup⟩ use p t).1 with ht'
      have hsampled : sampled ⟨.frame, lookup⟩ use p t' = sampled ⟨.tick, lookup⟩ use p t :=
        Track.sample_again lookup _ t
      have hnext : next ⟨.frame, lookup⟩ use p index t' = next ⟨.tick, lookup⟩ use p index t := by
        simp only [next, hsampled]
        rfl
      cases hn : (next ⟨.tick, lookup⟩ use p index t).2 with
      | false =>
        rw [run_close ⟨.tick, lookup⟩ use p index t rest hr hn]
        simp only
        rw [run_close ⟨.frame, lookup⟩ use p index t' rest hr (hnext ▸ hn), hnext, hsampled]
        rfl
      | true =>
        rw [run_go ⟨.tick, lookup⟩ use p index t rest hr hn]
        simp only
        rw [run_go ⟨.frame, lookup⟩ use p index t' _ hr (hnext ▸ hn), hnext, hsampled, ih]
        rfl

end Sweep

end Stagecraft
