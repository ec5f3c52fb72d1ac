/-
The levels that a host hears. A channel gives 0, 1 or a positive double, which may be an infinity; a host hears the single
nearest to it, muffled or not. So an update leaves `[0, ∞)` in one way only: when the double is halfway from the largest single
to `2 ^ 128`, or more. Then the pitch and the volume are infinite, or a NaN where an infinite volume is muffled to nothing.

- `level_nonneg`: what a channel gives.
- `updates_bounded`: what updates carry.
-/
import Mathlib.Tactic
import Stagecraft.Presentation.Sanitized
import Stagecraft.Proofs.Number.Overflow
import Stagecraft.Proofs.Presenter.Part

namespace Stagecraft

open Single

/-- a level is 0 or positive, and never a NaN -/
theorem Channel.level_nonneg (s : Sampling) (c : Channel) :
    (c.level s).result = Float.ofNat 0 ∨ Float.ofNat 0 < (c.level s).result := by
  simp only [level, evaluate, settleLevel]
  split_ifs
  · exact .inl rfl
  · split
    · exact .inr (by decide)
    · split_ifs with hpos
      · exact .inr hpos
      · exact .inl rfl

namespace LiveSound

/-- the pitch, of a level that a channel gives -/
theorem pitch_bounded {y : Float} (hy : y = Float.ofNat 0 ∨ Float.ofNat 0 < y) :
    (IsLevel (nearest y) ↔ y < halfway) ∧ ¬nearest y < 0 ∧ (nearest y).isNaN = false := by
  obtain ⟨hbelow, habove⟩ := isLevel_nearest hy
  by_cases hunder : y < halfway
  · have hlevel := hbelow hunder
    exact ⟨iff_of_true hlevel hunder, hlevel.2.1, hlevel.1⟩
  · obtain ⟨hnone, hpositive, hnumber⟩ := of_infinity (habove hunder)
    exact ⟨iff_of_false hnone hunder, hpositive, hnumber⟩

/-- the volume that reaches the observer -/
theorem volume_bounded (h : Hearing) (hlow : 0 ≤ h.attenuation) (hhigh : h.attenuation ≤ 1) {x : Float}
    (hx : x = Float.ofNat 0 ∨ Float.ofNat 0 < x) :
    (IsLevel (volumeOf h x) ↔ x < halfway) ∧ ¬volumeOf h x < 0 ∧
      ((volumeOf h x).isNaN = true ↔ ¬x < halfway ∧ h.observer.isMuffled = true ∧ ¬0 < h.attenuation) := by
  obtain ⟨hbelow, habove⟩ := isLevel_nearest hx
  cases hmuffled : h.observer.isMuffled with
  | false =>
    have hplain : volumeOf h x = nearest x := by simp [volumeOf, hmuffled]
    obtain ⟨hlevel, hpositive, hnumber⟩ := pitch_bounded hx
    rw [hplain]
    exact ⟨hlevel, hpositive, by rw [hnumber]; simp⟩
  | true =>
    have hproduct : volumeOf h x = nearest x * h.attenuation := by simp [volumeOf, hmuffled]
    rw [hproduct]
    by_cases hunder : x < halfway
    · have hlevel := isLevel_mul (hbelow hunder) hlow hhigh
      exact ⟨iff_of_true hlevel hunder, hlevel.2.1, by rw [hlevel.1]; simp [hunder]⟩
    · have hover := infinity_mul (habove hunder) hlow hhigh
      by_cases hpos : 0 < h.attenuation
      · obtain ⟨hnone, hpositive, hnumber⟩ := of_infinity (hover.trans (if_pos hpos))
        exact ⟨iff_of_false hnone hunder, hpositive, by rw [hnumber]; simp [hpos]⟩
      · obtain ⟨hnone, hpositive, hnan⟩ := of_notANumber (hover.trans (if_neg hpos))
        exact ⟨iff_of_false hnone hunder, hpositive, by rw [hnan]; simp [hunder, hpos]⟩

theorem update_of_tick (h : Hearing) (id : SoundId) (playing : List Voice) (l : LiveSound) {entity : EntityId} {sound : SoundId}
    {volume pitch : Float32} (hc : Cue.update entity sound volume pitch ∈ (l.tick h id playing).output) :
    sound = id ∧ volume = volumeOf h (l.volume.level h.sampling).result ∧
      pitch = nearest (l.pitch.level h.sampling).result := by
  unfold tick start silence at hc
  simp only at hc
  split_ifs at hc
  · simp_all
  · simp_all
  · cases holdest : Voices.oldest? playing id <;> simp [holdest] at hc
  · simp at hc

end LiveSound

namespace Presenter

/-- **Updates.** In a tick of any presenter whose attenuation is between 0 and 1, every update is about a sound on stage, and
its volume and its pitch are neither NaN nor negative nor infinite just if the levels that the channels of the sound give are
below halfway from the largest single to `2 ^ 128`. Neither is ever negative, the pitch is never a NaN, and the volume only
where a level that large is muffled to nothing. -/
theorem updates_bounded (p : Presenter) (hlow : 0 ≤ p.settings.enclosedAttenuation) (hhigh : p.settings.enclosedAttenuation ≤ 1)
    (n : Nat) (scope : Scope) (o : Observer) :
    ∀ entity sound volume pitch, Cue.update entity sound volume pitch ∈ (p.tick n scope o).output.audio →
      ∃ k l, p.sounds[k]? = some l ∧ sound = .ofIndex k ∧
        let x := (l.volume.level ⟨.tick, scope 0⟩).result
        let y := (l.pitch.level ⟨.tick, scope 0⟩).result
        (IsLevel volume ↔ x < halfway) ∧ (IsLevel pitch ↔ y < halfway) ∧ ¬volume < 0 ∧ ¬pitch < 0 ∧
          pitch.isNaN = false ∧
          (volume.isNaN = true ↔ ¬x < halfway ∧ o.isMuffled = true ∧ ¬0 < p.settings.enclosedAttenuation) := by
  intro entity sound volume pitch hupdate
  rw [tick_audio, List.mem_flatMap] at hupdate
  obtain ⟨k, hk, hcue⟩ := hupdate
  have hl := List.getElem?_eq_getElem (List.mem_range.1 hk)
  rw [p.cuesOf_sound scope o hl] at hcue
  obtain ⟨rfl, rfl, rfl⟩ := LiveSound.update_of_tick _ _ _ _ hcue
  refine ⟨k, _, hl, rfl, ?_⟩
  intro x y
  have hx : x = Float.ofNat 0 ∨ Float.ofNat 0 < x := Channel.level_nonneg _ _
  have hy : y = Float.ofNat 0 ∨ Float.ofNat 0 < y := Channel.level_nonneg _ _
  obtain ⟨hvolume, hloud, hnan⟩ := LiveSound.volume_bounded (p.hearing scope o) hlow hhigh hx
  obtain ⟨hpitch, hhigh, hnumber⟩ := LiveSound.pitch_bounded hy
  exact ⟨hvolume, hpitch, hloud, hhigh, hnumber, hnan⟩

/-- an engine as loud as its throttle, which is as loud as it is high -/
def loudEngine : Presentation :=
  let throttle : Animation Float := { Animation.plain .translation "throttle" with axis := some ⟨0, 1, 0⟩ }
  ⟨[], [⟨"engine", true, false, false, false, [], [throttle], []⟩], [], [], []⟩

/-- at a throttle of 3 the engine is heard at half of it from inside another entity -/
theorem updates_bounded_engine :
    let p := ((new ⟨7⟩ {}).activate loudEngine 0).state
    let inside : Observer := { ridingEnclosedOther := true, firstPerson := true }
    let throttle := (Table.ofList [("throttle", 3)]).scope
    0 ≤ p.settings.enclosedAttenuation ∧ p.settings.enclosedAttenuation ≤ 1 ∧ inside.isMuffled = true ∧
      .update ⟨7⟩ ⟨0⟩ 1.5 1 ∈ (p.tick 1 throttle inside).output.audio ∧ IsLevel 1.5 ∧ IsLevel 1 := by
  intro p inside throttle
  have hlow : 0 ≤ p.settings.enclosedAttenuation := by decide +kernel
  have hhigh : p.settings.enclosedAttenuation ≤ 1 := by decide +kernel
  have hupdate : .update ⟨7⟩ ⟨0⟩ 1.5 1 ∈ (p.tick 1 throttle inside).output.audio := by decide +kernel
  obtain ⟨k, l, hl, -, hvolume, hpitch, -⟩ := updates_bounded p hlow hhigh 1 throttle inside _ _ _ _ hupdate
  have hsounds : p.sounds = [Stage.liveSound .linear loudEngine.sounds[0]] := rfl
  obtain rfl : l = Stage.liveSound .linear loudEngine.sounds[0] := by
    rw [hsounds] at hl
    simpa using List.mem_of_getElem? hl
  exact ⟨hlow, hhigh, rfl, hupdate, hvolume.2 (by decide +kernel), hpitch.2 (by decide +kernel)⟩

/-- **An update out of bounds.** The settings, the engine and the throttle are all finite, and the engine is accepted as it is;
yet at a throttle of `10 ^ 300` its volume is infinite, and muffled by an attenuation of 0 it is a NaN. -/
theorem engine_out_of_bounds :
    let silent : Settings := { enclosedAttenuation := 0 }
    let p := ((new ⟨7⟩ {}).activate loudEngine 0).state
    let q := ((new ⟨7⟩ silent).activate loudEngine 0).state
    let inside : Observer := { ridingEnclosedOther := true, firstPerson := true }
    let throttle := (Table.ofList [("throttle", 1e300)]).scope
    loudEngine.sanitized = loudEngine ∧ (throttle 0 "throttle").map Float.isFinite = some true ∧
      (p.tick 1 throttle {}).output.audio = [.start ⟨7⟩ ⟨0⟩ "engine" true, .update ⟨7⟩ ⟨0⟩ Float32.inf 1] ∧
      (q.tick 1 throttle inside).output.audio = [.start ⟨7⟩ ⟨0⟩ "engine" true, .update ⟨7⟩ ⟨0⟩ Float32.nan 1] ∧
      ¬IsLevel Float32.inf ∧ ¬IsLevel Float32.nan := by
  decide +kernel

end Presenter

end Stagecraft
