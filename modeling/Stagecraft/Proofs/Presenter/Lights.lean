/-
The lights of a presenter. A tick and a frame read every light anew, and nothing else writes a brightness; so the bounds of a channel
are those of all that a presenter keeps and shows.

- `lightsBounded_call`, `lightsBounded_run`: the bounds, for one call and for a run.
- `brightness_bounded`: channels, kept brightnesses and pictures.
-/
import Mathlib.Tactic
import Stagecraft.Proofs.Channel.Brightness
import Stagecraft.Proofs.Presenter.Frame
import Stagecraft.Proofs.Presenter.Run

namespace Stagecraft

/-- a reading of the lights gives brightnesses -/
theorem Stage.isBrightness_readLights (s : Sampling) (stage : Stage) : ∀ b ∈ (stage.readLights s).output, IsBrightness b := by
  intro b hb
  rw [readLights_output] at hb
  obtain ⟨l, -, rfl⟩ := List.mem_map.1 hb
  exact l.brightness.isBrightness s

/-- all that an answer shows of lights is between 0 and 1 -/
def Answer.LightsBounded : Answer → Prop
  | .picture output => ∀ l ∈ output.lights, IsBrightness l.brightness
  | _ => True

namespace Presenter

/-- all that a presenter keeps of lights is between 0 and 1 -/
def LightsBounded (p : Presenter) : Prop := ∀ b ∈ p.brightness, IsBrightness b

theorem lightsBounded_of_empty {p : Presenter} (h : p.brightness = []) : p.LightsBounded := by
  intro b hb
  rw [h] at hb
  cases hb

theorem LightsBounded.of_brightnessOf? {p : Presenter} (h : p.LightsBounded) {light : LightId} {b : Float32}
    (hb : p.brightnessOf? light = some b) : IsBrightness b := by
  obtain ⟨⟨b', i⟩, hfind, rfl⟩ := Option.map_eq_some_iff.1 hb
  exact h b' (List.fst_mem_of_mem_zipIdx (List.mem_reverse.1 (List.mem_of_find?_eq_some hfind)))

theorem lightsBounded_frame (p : Presenter) (h : p.LightsBounded) (q : Float32) (scope : Scope) :
    (p.frame q scope).state.LightsBounded ∧ ∀ l ∈ (p.frame q scope).output.lights, IsBrightness l.brightness := by
  unfold frame
  cases hp : p.stage with
  | none => exact ⟨h, fun l hl => absurd hl List.not_mem_nil⟩
  | some stage =>
    refine ⟨stage.isBrightness_readLights _, ?_⟩
    intro l hl
    obtain ⟨⟨b, i⟩, hb, rfl⟩ := List.mem_map.1 hl
    exact stage.isBrightness_readLights _ b (List.fst_mem_of_mem_zipIdx hb)

/-- one call keeps the bounds, and shows nothing out of them -/
theorem lightsBounded_call (p : Presenter) (h : p.LightsBounded) (c : Call) :
    (p.call c).state.LightsBounded ∧ (p.call c).output.LightsBounded := by
  cases c with
  | activate d t =>
    refine ⟨?_, trivial⟩
    simp only [call, activate]
    split <;> exact h
  | reload d t => exact ⟨lightsBounded_of_empty rfl, trivial⟩
  | teardown => exact ⟨lightsBounded_of_empty rfl, trivial⟩
  | tick n scope o =>
    refine ⟨?_, trivial⟩
    simp only [call, tick]
    split
    · exact h
    · exact Stage.isBrightness_readLights _ _
  | frame q scope => exact p.lightsBounded_frame h q scope
  | soundFinished sound => exact ⟨h, trivial⟩

theorem lightsBounded_run (p : Presenter) (h : p.LightsBounded) (calls : List Call) :
    (p.run calls).state.LightsBounded ∧ ∀ a ∈ (p.run calls).output, a.LightsBounded := by
  induction calls generalizing p with
  | nil => exact ⟨h, fun a ha => absurd ha List.not_mem_nil⟩
  | cons c calls ih =>
    obtain ⟨hkept, hshown⟩ := p.lightsBounded_call h c
    obtain ⟨hend, hrest⟩ := ih (p.call c).state hkept
    rw [run_cons]
    refine ⟨hend, ?_⟩
    intro a ha
    rcases List.mem_cons.1 ha with rfl | ha
    · exact hshown
    · exact hrest a ha

/-- **Brightnesses are between 0 and 1.** Every channel, with clocks in any state, read in a tick or a frame with any answers, has a
brightness that is no NaN and lies between 0 and 1, though its level may be infinite or a NaN. So after any calls on a new presenter
the same is true of the brightness that it keeps for a light, if it keeps one, and it was true of every brightness that a frame
showed on the way. -/
theorem brightness_bounded (entity : EntityId) (settings : Settings) (calls : List Call) :
    (∀ (s : Sampling) (c : Channel), IsBrightness (c.brightness s).result) ∧
      let run := (new entity settings).run calls
      (∀ light b, run.state.brightnessOf? light = some b → IsBrightness b) ∧
        ∀ picture, .picture picture ∈ run.output → ∀ l ∈ picture.lights, IsBrightness l.brightness := by
  refine ⟨fun s c => c.isBrightness s, ?_⟩
  intro run
  obtain ⟨hkept, hshown⟩ := lightsBounded_run (new entity settings) (lightsBounded_of_empty rfl) calls
  exact ⟨fun light b hb => hkept.of_brightnessOf? hb, fun picture hpicture => hshown _ hpicture⟩

/-- a searchlight that multiplies a level of nothing by its flux, and one that multiplies its flux by itself -/
def searchlights : Presentation :=
  let times : Animation Float := { Animation.plain .translation "flux" with axis := some ⟨1, 0, 0⟩ }
  ⟨[⟨"beam", [times]⟩, ⟨"halo", [Animation.plain .translation "flux", times]⟩], [], [], [], []⟩

/-- at an infinite flux the level of the first is a NaN and that of the second is infinite; both are fully bright, and so they are
shown in the next frame -/
theorem brightness_bounded_searchlights :
    let scope := (Table.ofList [("flux", 1 / 0)]).scope
    let calls := [.activate searchlights 0, .tick 1 scope {}, .frame 0.5 scope]
    let run := (new ⟨7⟩ {}).run calls
    let picture : FrameOutput := ⟨[⟨⟨7⟩, ⟨0⟩, 1⟩, ⟨⟨7⟩, ⟨1⟩, 1⟩], []⟩
    run.state.brightnessOf? ⟨0⟩ = some 1 ∧ .picture picture ∈ run.output ∧ IsBrightness 1 ∧
      ∀ l ∈ picture.lights, IsBrightness l.brightness := by
  intro scope calls run picture
  have hkept : run.state.brightnessOf? ⟨0⟩ = some 1 := by decide +kernel
  have hshown : .picture picture ∈ run.output := by decide +kernel
  obtain ⟨-, hlights, hpictures⟩ := brightness_bounded ⟨7⟩ {} calls
  exact ⟨hkept, hshown, hlights ⟨0⟩ 1 hkept, hpictures picture hshown⟩

end Presenter

end Stagecraft
