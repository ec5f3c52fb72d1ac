/-
Frames after ticks. A frame reads the clocks that the last tick left, so with answers that do not depend on the partial
tick it shows what that tick computed.

- `frame_repeats_tick`: each of the four readings of a channel, done in a tick and then in a frame, gives the same result
  both times, asks for the same names in the same order, meets no new name and leaves the clocks alone; and a frame
  directly after a tick of a presenter shows the brightnesses and poses of that tick, and changes nothing.
-/
import Mathlib.Tactic
import Stagecraft.Presenter.Tick
import Stagecraft.Proofs.Channel.Sweep
import Stagecraft.Proofs.Presenter.Unanswered

namespace Stagecraft

/-! ## One channel -/

/-- answers that do not depend on the partial tick -/
def Scope.Steady (scope : Scope) : Prop := ∀ (q r : Float32) (name : String), scope q name = scope r name

theorem Scope.Steady.eq {scope : Scope} (hs : scope.Steady) (q : Float32) : scope q = scope 0 :=
  funext fun name => hs q 0 name

/-- a reading of a channel in a tick, and again in a frame at the partial tick `q` over the clocks that the tick left -/
structure ReadsAgain {ρ : Type} (read : Sampling → Channel → Evaluation ρ) (scope : Scope) (q : Float32) (c : Channel) :
    Prop where
  result : (read ⟨.frame, scope q⟩ (read ⟨.tick, scope 0⟩ c).channel).result = (read ⟨.tick, scope 0⟩ c).result
  asked : (read ⟨.frame, scope q⟩ (read ⟨.tick, scope 0⟩ c).channel).asked = (read ⟨.tick, scope 0⟩ c).asked
  clocks : (read ⟨.frame, scope q⟩ (read ⟨.tick, scope 0⟩ c).channel).channel = (read ⟨.tick, scope 0⟩ c).channel
  /-- whatever names were met before the tick, the frame meets none that the tick did not -/
  met (u : Unanswered) :
    let noted := (u.noteAll (Presenter.unresolved ⟨.tick, scope 0⟩ (read ⟨.tick, scope 0⟩ c).asked)).state
    noted.noteAll (Presenter.unresolved ⟨.frame, scope q⟩
      (read ⟨.frame, scope q⟩ (read ⟨.tick, scope 0⟩ c).channel).asked) = ⟨noted, (), []⟩

theorem Channel.evaluate_again {σ ρ : Type} (lookup : String → Option Float) (use : Use σ) (start : σ)
    (settle : Gate → σ → ρ) (c : Channel) :
    (c.evaluate ⟨.tick, lookup⟩ use start settle).channel.evaluate ⟨.frame, lookup⟩ use start settle =
      c.evaluate ⟨.tick, lookup⟩ use start settle := by
  simp only [Channel.evaluate, Sweep.run_again]

/-- names noted once are met already -/
theorem Presenter.noteAll_unresolved_again (u : Unanswered) (lookup : String → Option Float) (asked : List String) :
    let noted := (u.noteAll (unresolved ⟨.tick, lookup⟩ asked)).state
    noted.noteAll (unresolved ⟨.frame, lookup⟩ asked) = ⟨noted, (), []⟩ := by
  apply Unanswered.noteAll_of_seen
  intro name hname
  exact (Unanswered.mem_seen_noteAll _ _ _).2 (Or.inr hname)

/-- a reading that gives itself again over the clocks it left reads again -/
theorem readsAgain_of_again {ρ : Type} (read : Sampling → Channel → Evaluation ρ)
    (hread : ∀ lookup c, read ⟨.frame, lookup⟩ (read ⟨.tick, lookup⟩ c).channel = read ⟨.tick, lookup⟩ c)
    (scope : Scope) (hs : scope.Steady) (q : Float32) (c : Channel) : ReadsAgain read scope q c := by
  constructor
  · rw [hs.eq q, hread]
  · rw [hs.eq q, hread]
  · rw [hs.eq q, hread]
  · intro u
    rw [hs.eq q, hread]
    exact Presenter.noteAll_unresolved_again u (scope 0) _

/-! ## The parts of a stage -/

theorem Reading.all_again {τ ω : Type} (first again : Nat → τ → Reading τ ω)
    (h : ∀ index part, again index (first index part).state = first index part) (index : Nat) (parts : List τ) :
    Reading.all again index (Reading.all first index parts).state = Reading.all first index parts := by
  induction parts generalizing index with
  | nil => rfl
  | cons part parts ih => simp only [Reading.all, h, ih]

theorem Reading.all_output {τ ω : Type} (read : τ → Reading τ ω) (give : τ → ω)
    (h : ∀ part, (read part).output = [give part]) (index : Nat) (parts : List τ) :
    (Reading.all (fun _ part => read part) index parts).output = parts.map give := by
  induction parts generalizing index with
  | nil => rfl
  | cons part parts ih => simp [Reading.all, h, ih]

namespace Stage

theorem readLights_again (lookup : String → Option Float) (stage other : Stage)
    (h : other.lights = (stage.readLights ⟨.tick, lookup⟩).state) :
    other.readLights ⟨.frame, lookup⟩ = stage.readLights ⟨.tick, lookup⟩ := by
  unfold readLights
  rw [h]
  refine Reading.all_again _ _ (fun _ l => ?_) 0 stage.lights
  simp only [LiveLight.read, Channel.brightness, Channel.evaluate_again]

theorem readObjects_again (lookup : String → Option Float) (stage other : Stage)
    (h : other.objects = (stage.readObjects ⟨.tick, lookup⟩).state) :
    other.readObjects ⟨.frame, lookup⟩ = stage.readObjects ⟨.tick, lookup⟩ := by
  unfold readObjects
  rw [h]
  refine Reading.all_again _ _ (fun _ o => ?_) 0 stage.objects
  simp only [LiveObject.read, Channel.pose, Channel.evaluate_again]

theorem readLights_output (s : Sampling) (stage : Stage) :
    (stage.readLights s).output = stage.lights.map fun l => (l.brightness.brightness s).result :=
  Reading.all_output (LiveLight.read s) (fun l => (l.brightness.brightness s).result) (fun _ => rfl) 0 stage.lights

theorem readObjects_output (s : Sampling) (stage : Stage) :
    (stage.readObjects s).output = stage.objects.map fun o => (o.motion.pose s).result :=
  Reading.all_output (LiveObject.read s) (fun o => (o.motion.pose s).result) (fun _ => rfl) 0 stage.objects

end Stage

/-! ## A frame directly after a tick -/

namespace Presenter

/-- what a tick leaves to frames: the lights and objects as it read them, their brightnesses, and every name that it
asked them for in vain -/
theorem tick_leaves (p : Presenter) (stage : Stage) (hp : p.stage = some stage) (n : Nat) (scope : Scope)
    (o : Observer) :
    ∃ after, (p.tick n scope o).state.stage = some after ∧
      after.lights = (stage.readLights ⟨.tick, scope 0⟩).state ∧
      after.objects = (stage.readObjects ⟨.tick, scope 0⟩).state ∧
      (p.tick n scope o).state.brightness = (stage.readLights ⟨.tick, scope 0⟩).output ∧
      ∀ name ∈ unresolved ⟨.tick, scope 0⟩
          ((stage.readLights ⟨.tick, scope 0⟩).asked ++ (stage.readObjects ⟨.tick, scope 0⟩).asked),
        name ∈ (p.tick n scope o).state.unanswered.seen := by
  simp only [tick, hp]
  refine ⟨_, rfl, rfl, rfl, trivial, fun name hname => ?_⟩
  rw [Unanswered.mem_seen_noteAll]
  right
  simp only [unresolved, List.mem_filter, List.mem_append] at hname ⊢
  tauto

/-- a frame directly after a tick changes and reports nothing, and shows what the tick read -/
theorem frame_tick (p : Presenter) (stage : Stage) (hp : p.stage = some stage) (n : Nat) (scope : Scope)
    (o : Observer) (hs : scope.Steady) (q : Float32) :
    (p.tick n scope o).state.frame q scope = ⟨(p.tick n scope o).state,
      { lights := (stage.readLights ⟨.tick, scope 0⟩).output.zipIdx.map fun (b, index) => ⟨p.entity, .ofIndex index, b⟩
        poses := (stage.readObjects ⟨.tick, scope 0⟩).output.zipIdx.map
          fun (m, index) => ⟨p.entity, .ofIndex index, m⟩ }, []⟩ := by
  obtain ⟨after, hafter, hlights, hobjects, hbright, hseen⟩ := p.tick_leaves stage hp n scope o
  have hentity : (p.tick n scope o).state.entity = p.entity := by simp only [tick, hp]
  have hl := Stage.readLights_again (scope 0) stage after hlights
  have ho := Stage.readObjects_again (scope 0) stage after hobjects
  have hnoted := Unanswered.noteAll_of_seen _ _ hseen
  generalize (p.tick n scope o).state = t at *
  simp only [frame, hafter, hs.eq q, hl, ho]
  change t.unanswered.noteAll (unresolved ⟨.frame, scope 0⟩ _) = _ at hnoted
  rw [hnoted, ← hbright, ← hentity, ← hafter]

/-- the brightness kept under an id is that of the last light of a frame with the id -/
theorem brightnessOf?_eq_output (p : Presenter) (entity : EntityId) (light : LightId) :
    p.brightnessOf? light =
      ((p.brightness.zipIdx.map fun (b, index) => (⟨entity, .ofIndex index, b⟩ : LightOutput)).reverse.find?
        (·.light = light)).map (·.brightness) := by
  simp only [brightnessOf?, ← List.map_reverse, List.find?_map, Option.map_map]
  rfl

end Presenter

/-! ## The views agree -/

/-- **Ticks and frames agree.** With answers that do not depend on the partial tick, every reading of every channel, done
in a tick and again in a frame over the clocks that the tick left, gives the same result, asks for the same names in the
same order, meets no new name and leaves the clocks alone. A frame directly after a tick of a presenter with a stage
changes nothing and reports nothing; it shows each light with the brightness that the tick kept for it, and each object
with the pose that the tick read. -/
theorem frame_repeats_tick (scope : Scope) (hs : scope.Steady) (q : Float32) :
    (∀ c : Channel, ReadsAgain Channel.gate scope q c ∧ ReadsAgain Channel.brightness scope q c ∧
      ReadsAgain Channel.level scope q c ∧ ReadsAgain Channel.pose scope q c) ∧
    ∀ (p : Presenter) (stage : Stage), p.stage = some stage → ∀ (n : Nat) (o : Observer),
      let t := p.tick n scope o
      let f := t.state.frame q scope
      f.state = t.state ∧ f.events = [] ∧
      t.state.brightness = stage.lights.map (fun l => (l.brightness.brightness ⟨.tick, scope 0⟩).result) ∧
      f.output.lights = t.state.brightness.zipIdx.map (fun (b, index) => ⟨p.entity, .ofIndex index, b⟩) ∧
      (∀ light, t.state.brightnessOf? light =
        (f.output.lights.reverse.find? (·.light = light)).map (·.brightness)) ∧
      f.output.poses = stage.objects.mapIdx
        (fun index l => ⟨p.entity, .ofIndex index, (l.motion.pose ⟨.tick, scope 0⟩).result⟩) := by
  constructor
  · intro c
    refine ⟨?_, ?_, ?_, ?_⟩ <;> exact readsAgain_of_again _ (fun _ _ => Channel.evaluate_again _ _ _ _ _) scope hs q c
  · intro p stage hp n o t f
    obtain ⟨_, _, _, _, hbright, _⟩ := p.tick_leaves stage hp n scope o
    have hf : f = _ := p.frame_tick stage hp n scope o hs q
    have hlights : f.output.lights = t.state.brightness.zipIdx.map
        fun (b, index) => (⟨p.entity, .ofIndex index, b⟩ : LightOutput) := by
      rw [hf, hbright]
    refine ⟨by rw [hf], by rw [hf], hbright.trans (stage.readLights_output _), hlights, fun light => ?_, ?_⟩
    · rw [hlights]
      exact t.state.brightnessOf?_eq_output p.entity light
    · rw [hf]
      simp only [Stage.readObjects_output, List.mapIdx_eq_zipIdx_map, List.zipIdx_map, List.map_map]
      rfl

/-- a door that takes four ticks to open -/
def slidingDoor : MovingObject :=
  ⟨"door", [{ Animation.plain .translation "open" with axis := some ⟨0, 2, 0⟩, duration := 4 }]⟩

/-- the frame after the first tick shows the door a quarter of its way up -/
theorem frame_repeats_tick_door :
    let scope := (Table.ofList [("open", 1)]).scope
    let stage := Stage.build .linear ⟨[], [], [], [slidingDoor], []⟩ 0
    let p := { Presenter.new ⟨7⟩ {} with stage := some stage }
    scope.Steady ∧ p.stage = some stage ∧
      ReadsAgain Channel.pose scope 0.5 (Channel.ofAnimations .linear slidingDoor.motion) ∧
      ((p.tick 1 scope {}).state.frame 0.5 scope).output.poses =
        [⟨⟨7⟩, ⟨0⟩, ⟨true, [⟨0, .translation, ⟨0, 2, 0⟩, 0.5, false⟩]⟩⟩] := by
  intro scope stage p
  have hs : scope.Steady := fun _ _ _ => rfl
  obtain ⟨hchannel, hpresenter⟩ := frame_repeats_tick scope hs 0.5
  obtain ⟨-, -, -, -, -, hposes⟩ := hpresenter p stage rfl 1 {}
  refine ⟨hs, rfl, (hchannel _).2.2.2, hposes.trans ?_⟩
  decide +kernel

end Stagecraft
