/-
A presenter in step with its presentation. Whatever calls a host makes, as long as no list of a presentation has more entries
than there are ids: the parts on stage are those of the presentation in order, and every clock runs the animation of its own
place; every voice is one of a sound of the presentation; and brightnesses are kept for all lights of the presentation or for
none. Off stage nothing plays and nothing is lit.

- `LiveSound.all_tickAll`: where the voices after a tick come from.
- `InStep.call`: one call keeps a presenter in step.
- `reachable_in_step`: what holds in every state that calls lead to.
-/
import Mathlib.Tactic
import Stagecraft.Proofs.Channel.Turn
import Stagecraft.Proofs.Presenter.Frame
import Stagecraft.Proofs.Presenter.Silence

namespace Stagecraft

/-! ## Places and ids -/

/-- the place that a word names -/
theorem ofNat_eq_iff {i : Nat} (hi : i < 2 ^ 32) (word : UInt32) : UInt32.ofNat i = word ↔ i = word.toNat := by
  constructor
  · rintro rfl
    rw [UInt32.toNat_ofNat', Nat.mod_eq_of_lt hi]
  · rintro rfl
    exact UInt32.ofNat_toNat

/-- the place of a sound with an id -/
def SoundId.place (id : SoundId) : Nat := id.val.toNat

def ParticleId.place (id : ParticleId) : Nat := id.val.toNat

def LightId.place (id : LightId) : Nat := id.val.toNat

def ObjectId.place (id : ObjectId) : Nat := id.val.toNat

theorem SoundId.ofIndex_eq_iff {i : Nat} (hi : i < 2 ^ 32) (id : SoundId) : SoundId.ofIndex i = id ↔ i = id.place := by
  rw [place, ← ofNat_eq_iff hi]
  exact ⟨fun h => congrArg SoundId.val h, fun h => congrArg SoundId.mk h⟩

theorem ParticleId.ofIndex_eq_iff {i : Nat} (hi : i < 2 ^ 32) (id : ParticleId) :
    ParticleId.ofIndex i = id ↔ i = id.place := by
  rw [place, ← ofNat_eq_iff hi]
  exact ⟨fun h => congrArg ParticleId.val h, fun h => congrArg ParticleId.mk h⟩

theorem LightId.ofIndex_eq_iff {i : Nat} (hi : i < 2 ^ 32) (id : LightId) : LightId.ofIndex i = id ↔ i = id.place := by
  rw [place, ← ofNat_eq_iff hi]
  exact ⟨fun h => congrArg LightId.val h, fun h => congrArg LightId.mk h⟩

theorem ObjectId.ofIndex_eq_iff {i : Nat} (hi : i < 2 ^ 32) (id : ObjectId) : ObjectId.ofIndex i = id ↔ i = id.place := by
  rw [place, ← ofNat_eq_iff hi]
  exact ⟨fun h => congrArg ObjectId.val h, fun h => congrArg ObjectId.mk h⟩

/-- no list of a presentation has more entries than there are ids -/
structure Presentation.Addressable (d : Presentation) : Prop where
  lights : d.lights.length ≤ 2 ^ 32
  sounds : d.sounds.length ≤ 2 ^ 32
  emitters : d.emitters.length ≤ 2 ^ 32
  objects : d.objects.length ≤ 2 ^ 32

/-- the presentation that a call sets up -/
def Call.presentation? : Call → Option Presentation
  | .activate d _ => some d
  | .reload d _ => some d
  | _ => none

/-! ## The parts on stage -/

/-- every reading of a channel keeps every animation at its place -/
theorem Channel.animations_evaluate {σ ρ : Type} (s : Sampling) (use : Use σ) (start : σ) (settle : Gate → σ → ρ)
    (c : Channel) : (c.evaluate s use start settle).channel.map (·.animation) = c.map (·.animation) :=
  Sweep.run_animations s use _ 0 c

/-- a light, and the animations that its clocks run -/
def LiveLight.script (l : LiveLight) : Light × List (Animation Float) := (l.light, l.brightness.map (·.animation))

/-- a sound, and the animations that the clocks of its three channels run -/
def LiveSound.script (l : LiveSound) : Sound × List (Animation Float) × List (Animation Float) × List (Animation Float) :=
  (l.sound, l.active.map (·.animation), l.volume.map (·.animation), l.pitch.map (·.animation))

def LiveEmitter.script (l : LiveEmitter) : Emitter × List (Animation Float) := (l.emitter, l.active.map (·.animation))

def LiveObject.script (l : LiveObject) : MovingObject × List (Animation Float) := (l.object, l.motion.map (·.animation))

/-- the parts on stage are those of the presentation, and every clock runs the animation of its own place -/
structure Stage.InStep (stage : Stage) : Prop where
  lights : stage.lights.map LiveLight.script = stage.presentation.lights.map fun l => (l, l.brightness)
  sounds : stage.sounds.map LiveSound.script = stage.presentation.sounds.map fun s => (s, s.active, s.volume, s.pitch)
  emitters : stage.emitters.map LiveEmitter.script = stage.presentation.emitters.map fun e => (e, e.active)
  objects : stage.objects.map LiveObject.script = stage.presentation.objects.map fun o => (o, o.motion)

theorem Stage.inStep_build (curve : Curve) (d : Presentation) (tick : Nat) : (build curve d tick).InStep := by
  constructor <;>
    simp only [build, List.map_map, Function.comp_def, liveLight, liveSound, liveEmitter, liveObject, LiveLight.script,
      LiveSound.script, LiveEmitter.script, LiveObject.script, Channel.animations_ofAnimations]

/-- what the reading of every part keeps, the reading of all of them keeps at every place -/
theorem Reading.map_state_all {τ ω γ : Type} {read : Nat → τ → Reading τ ω} {view : τ → γ}
    (hread : ∀ index part, view (read index part).state = view part) (index : Nat) (parts : List τ) :
    (Reading.all read index parts).state.map view = parts.map view := by
  induction parts generalizing index with
  | nil => rfl
  | cons part parts ih => simp only [Reading.all, List.map_cons, hread, ih]

theorem LiveLight.script_read (s : Sampling) (l : LiveLight) : (l.read s).state.script = l.script := by
  simp only [read, script, Channel.brightness, Channel.animations_evaluate]

theorem LiveObject.script_read (s : Sampling) (o : LiveObject) : (o.read s).state.script = o.script := by
  simp only [read, script, Channel.pose, Channel.animations_evaluate]

theorem LiveEmitter.script_tick (s : Sampling) (entity : EntityId) (n index : Nat) (l : LiveEmitter) :
    (l.tick s entity n index).state.script = l.script := by
  have hgate : (l.active.gate s).channel.map (·.animation) = l.active.map (·.animation) :=
    Channel.animations_evaluate s Use.gate () _ l.active
  unfold tick
  simp only
  split_ifs <;> simp only [script, hgate]

namespace LiveSound

theorem animations_heardGate (h : Hearing) (l : LiveSound) :
    (l.heardGate h).channel.map (·.animation) = l.active.map (·.animation) := by
  unfold heardGate
  split_ifs
  · exact Channel.animations_evaluate _ Use.gate () _ l.active
  · rfl

theorem script_tick (h : Hearing) (id : SoundId) (playing : List Voice) (l : LiveSound) :
    (l.tick h id playing).state.1.script = l.script := by
  unfold tick
  simp only
  split_ifs <;> simp only [script, animations_heardGate, Channel.level, Channel.animations_evaluate]

theorem scripts_tickAll (h : Hearing) (index : Nat) (playing : List Voice) (ls : List LiveSound) :
    (tickAll h index playing ls).state.1.map script = ls.map script := by
  induction ls generalizing index playing with
  | nil => rfl
  | cons l ls ih => simp only [tickAll, List.map_cons, script_tick, ih]

end LiveSound

/-! ## Counting clocks -/

/-- the number of animations in all channels of a presentation -/
def Presentation.animationCount (d : Presentation) : Nat :=
  (d.lights.map (·.brightness.length)).sum +
    (d.sounds.map fun s => s.active.length + s.volume.length + s.pitch.length).sum +
    (d.emitters.map (·.active.length)).sum + (d.objects.map (·.motion.length)).sum

theorem Stage.total_eq_sum {τ : Type} (size : τ → Nat) (parts : List τ) : total size parts = (parts.map size).sum := by
  induction parts with
  | nil => rfl
  | cons part parts ih =>
    rw [List.map_cons, List.sum_cons, ← ih]
    rfl

/-- in step with its presentation, a stage has one clock for every animation -/
theorem Stage.InStep.clockCount {stage : Stage} (h : stage.InStep) :
    stage.clockCount = stage.presentation.animationCount := by
  have hlights := congrArg (List.map fun l => l.2.length) h.lights
  have hsounds := congrArg (List.map fun l => l.2.1.length + l.2.2.1.length + l.2.2.2.length) h.sounds
  have hemitters := congrArg (List.map fun l => l.2.length) h.emitters
  have hobjects := congrArg (List.map fun l => l.2.length) h.objects
  simp only [List.map_map, Function.comp_def, LiveLight.script, LiveSound.script, LiveEmitter.script, LiveObject.script,
    List.length_map] at hlights hsounds hemitters hobjects
  simp only [Stage.clockCount, total_eq_sum, Presentation.animationCount, hlights, hsounds, hemitters, hobjects]

/-! ## Voices of the presentation -/

/-- every voice satisfies a property of its sound, its name and whether it is looping -/
def Voices.All (P : SoundId → String → Bool → Prop) (playing : List Voice) : Prop :=
  ∀ v ∈ playing, P v.sound v.name v.looping

section All

variable {P : SoundId → String → Bool → Prop} {playing : List Voice}

theorem Voices.all_nil : All P [] := fun _ hv => absurd hv List.not_mem_nil

theorem Voices.All.dropOldest (h : All P playing) (id : SoundId) : All P (dropOldest playing id) :=
  fun v hv => h v (List.mem_of_mem_eraseP hv)

theorem Voices.All.setLevels (h : All P playing) (id : SoundId) (volume pitch : Float32) :
    All P (setLevels playing id volume pitch) := by
  intro v hv
  obtain ⟨before, hbefore, rfl⟩ := List.mem_map.1 hv
  have hsame := h before hbefore
  split_ifs <;> exact hsame

namespace LiveSound

theorem all_silence (h : Hearing) (id : SoundId) (s : Sound) (hall : Voices.All P playing) :
    Voices.All P (silence h id s playing).1 := by
  unfold silence
  split_ifs
  · cases Voices.oldest? playing id with
    | none => exact hall
    | some v => exact hall.dropOldest id
  · exact hall

theorem all_start (h : Hearing) (id : SoundId) (s : Sound) (hnew : P id s.name s.looping)
    (hall : Voices.All P playing) : Voices.All P (start h id s playing).1 := by
  unfold start
  split_ifs
  · exact hall
  · intro v hv
    rcases List.mem_append.1 hv with hv | hv
    · exact hall v hv
    · rw [List.mem_singleton.1 hv]
      exact hnew

/-- what holds of the voices before a turn, and of the sound that takes it, holds of the voices afterwards -/
theorem all_tick (h : Hearing) (id : SoundId) (l : LiveSound) (hnew : P id l.sound.name l.sound.looping)
    (hall : Voices.All P playing) : Voices.All P (l.tick h id playing).state.2 := by
  unfold tick
  simp only
  split_ifs
  · exact (all_start h id l.sound hnew hall).setLevels id _ _
  · exact all_silence h id l.sound hall

theorem all_tickAll (h : Hearing) (index : Nat) (ls : List LiveSound)
    (hnew : ∀ k l, ls[k]? = some l → P (.ofIndex (index + k)) l.sound.name l.sound.looping)
    (hall : Voices.All P playing) : Voices.All P (tickAll h index playing ls).state.2 := by
  induction ls generalizing index playing with
  | nil => exact hall
  | cons l ls ih =>
    refine ih (index + 1) (fun k later hk => ?_) (all_tick h _ l (hnew 0 l rfl) hall)
    have hlater := hnew (k + 1) later hk
    rwa [Nat.add_assoc, Nat.add_comm 1]

end LiveSound

end All

namespace Presenter

/-- the presentation on stage has a sound of a name at an id, looping or not -/
def Writes (p : Presenter) (sound : SoundId) (name : String) (looping : Bool) : Prop :=
  ∃ d s, p.presentation? = some d ∧ d.sounds[sound.place]? = some s ∧ s.name = name ∧ s.looping = looping

/-- an id has one sound -/
theorem Writes.eq {p : Presenter} {sound : SoundId} {name name' : String} {looping looping' : Bool}
    (h : p.Writes sound name looping) (h' : p.Writes sound name' looping') : name = name' ∧ looping = looping' := by
  obtain ⟨d, s, hd, hs, rfl, rfl⟩ := h
  obtain ⟨d', s', hd', hs', rfl, rfl⟩ := h'
  obtain rfl : d = d' := Option.some.inj (hd.symm.trans hd')
  obtain rfl : s = s' := Option.some.inj (hs.symm.trans hs')
  exact ⟨rfl, rfl⟩

/-- off stage there are no sounds -/
theorem not_writes_of_offStage {p : Presenter} (hoff : p.stage = none) (sound : SoundId) (name : String)
    (looping : Bool) : ¬ p.Writes sound name looping := by
  rintro ⟨d, -, hd, -⟩
  simp [presentation?, hoff] at hd

/-! ## The invariant -/

/-- a presenter in step with its presentation -/
structure InStep (p : Presenter) : Prop where
  addressable : ∀ d, p.presentation? = some d → d.Addressable
  stage : ∀ stage, p.stage = some stage → stage.InStep
  voices : Voices.All p.Writes p.playing
  brightness : p.brightness = [] ∨ ∃ d, p.presentation? = some d ∧ p.brightness.length = d.lights.length

theorem InStep.playing_offStage {p : Presenter} (h : p.InStep) (hoff : p.stage = none) : p.playing = [] := by
  rw [List.eq_nil_iff_forall_not_mem]
  intro v hv
  exact not_writes_of_offStage hoff _ _ _ (h.voices v hv)

theorem InStep.brightness_offStage {p : Presenter} (h : p.InStep) (hoff : p.stage = none) : p.brightness = [] := by
  rcases h.brightness with hdark | ⟨d, hd, -⟩
  · exact hdark
  · simp [presentation?, hoff] at hd

theorem inStep_new (entity : EntityId) (settings : Settings) : (new entity settings).InStep :=
  ⟨fun _ hd => absurd hd (by simp [presentation?, new]), fun _ hs => absurd hs (by simp [new]), Voices.all_nil, .inl rfl⟩

/-- a stage just set up, with nothing playing and nothing lit -/
theorem inStep_of_build {p : Presenter} {curve : Curve} {d : Presentation} {tick : Nat}
    (hstage : p.stage = some (Stage.build curve d tick)) (hd : d.Addressable) (hplaying : p.playing = [])
    (hbrightness : p.brightness = []) : p.InStep := by
  refine ⟨fun d' hd' => ?_, fun stage hs => ?_, hplaying ▸ Voices.all_nil, .inl hbrightness⟩
  · obtain rfl : d = d' := by simpa [presentation?, hstage, Stage.build] using hd'
    exact hd
  · obtain rfl := Option.some.inj (hstage.symm.trans hs)
    exact Stage.inStep_build curve d tick

/-- the sound at a place of the stage is the sound at the place in the presentation -/
theorem InStep.sound_getElem? {p : Presenter} (h : p.InStep) {stage : Stage} (hp : p.stage = some stage) (k : Nat) :
    stage.sounds[k]?.map (·.sound) = stage.presentation.sounds[k]? := by
  have hplace := congrArg (fun scripts => scripts[k]?.map (·.1)) (h.stage stage hp).sounds
  simpa [Function.comp_def, LiveSound.script] using hplace

theorem InStep.length_sounds {p : Presenter} (h : p.InStep) {stage : Stage} (hp : p.stage = some stage) :
    stage.sounds.length ≤ 2 ^ 32 := by
  have hlength := congrArg List.length (h.stage stage hp).sounds
  rw [List.length_map, List.length_map] at hlength
  rw [hlength]
  exact (h.addressable _ (by simp [presentation?, hp])).sounds

/-- a sound on stage is written under the id of its place -/
theorem InStep.writes {p : Presenter} (h : p.InStep) {stage : Stage} (hp : p.stage = some stage) {k : Nat}
    {l : LiveSound} (hl : stage.sounds[k]? = some l) : p.Writes (.ofIndex k) l.sound.name l.sound.looping := by
  have hk : k < 2 ^ 32 := (List.getElem?_eq_some_iff.1 hl).1.trans_le (h.length_sounds hp)
  have hplace : k = (SoundId.ofIndex k).place := (SoundId.ofIndex_eq_iff hk _).1 rfl
  have hwritten := h.sound_getElem? hp k
  rw [hl, Option.map_some] at hwritten
  exact ⟨stage.presentation, l.sound, by simp [presentation?, hp], hplace ▸ hwritten.symm, rfl, rfl⟩

theorem presentation?_tick (p : Presenter) (n : Nat) (scope : Scope) (o : Observer) :
    (p.tick n scope o).state.presentation? = p.presentation? := by
  cases hp : p.stage with
  | none => simp only [Presenter.tick, hp]
  | some stage => simp only [Presenter.tick, presentation?, hp, Option.map_some]

theorem presentation?_frame (p : Presenter) (q : Float32) (scope : Scope) :
    (p.frame q scope).state.presentation? = p.presentation? := by
  cases hp : p.stage with
  | none => simp only [Presenter.frame, hp]
  | some stage => simp only [Presenter.frame, presentation?, hp, Option.map_some]

/-- a reading of the lights gives as many brightnesses as the presentation has lights -/
theorem InStep.length_readLights {p : Presenter} (h : p.InStep) {stage : Stage} (hp : p.stage = some stage)
    (s : Sampling) : (stage.readLights s).output.length = stage.presentation.lights.length := by
  have hlength := congrArg List.length (h.stage stage hp).lights
  rw [List.length_map, List.length_map] at hlength
  rw [Stage.readLights_output, List.length_map, hlength]

/-- a tick keeps every clock at its place -/
theorem inStep_tick (p : Presenter) (h : ∀ stage, p.stage = some stage → stage.InStep) (n : Nat) (scope : Scope)
    (o : Observer) : ∀ stage, (p.tick n scope o).state.stage = some stage → stage.InStep := by
  intro after hafter
  cases hp : p.stage with
  | none =>
    simp only [Presenter.tick, hp] at hafter
    cases hafter
  | some stage =>
    have hstage := h stage hp
    simp only [Presenter.tick, hp, Option.some.injEq] at hafter
    subst hafter
    exact {
      lights := (Reading.map_state_all (fun _ l => l.script_read _) 0 stage.lights).trans hstage.lights
      sounds := (LiveSound.scripts_tickAll _ 0 p.playing stage.sounds).trans hstage.sounds
      emitters := (Reading.map_state_all (fun i l => l.script_tick _ p.entity n i) 0 stage.emitters).trans hstage.emitters
      objects := (Reading.map_state_all (fun _ o => o.script_read _) 0 stage.objects).trans hstage.objects }

theorem InStep.tick {p : Presenter} (h : p.InStep) (n : Nat) (scope : Scope) (o : Observer) :
    (p.tick n scope o).state.InStep := by
  have hsame := p.presentation?_tick n scope o
  cases hp : p.stage with
  | none =>
    simp only [Presenter.tick, hp]
    exact h
  | some stage =>
    have hvoices : Voices.All p.Writes (p.tick n scope o).state.playing := by
      simp only [Presenter.tick, hp]
      refine LiveSound.all_tickAll _ 0 stage.sounds (fun k l hl => ?_) h.voices
      rw [Nat.zero_add]
      exact h.writes hp hl
    refine ⟨fun d hd => h.addressable d (hsame ▸ hd), p.inStep_tick h.stage n scope o, ?_,
      .inr ⟨stage.presentation, ?_, ?_⟩⟩
    · intro v hv
      simpa only [Writes, hsame] using hvoices v hv
    · rw [hsame, presentation?, hp, Option.map_some]
    · simp only [Presenter.tick, hp]
      exact h.length_readLights hp _

theorem InStep.frame {p : Presenter} (h : p.InStep) (q : Float32) (scope : Scope) :
    (p.frame q scope).state.InStep := by
  have hsame := p.presentation?_frame q scope
  cases hp : p.stage with
  | none =>
    simp only [Presenter.frame, hp]
    exact h
  | some stage =>
    have hplaying : (p.frame q scope).state.playing = p.playing := by simp only [Presenter.frame, hp]
    refine ⟨fun d hd => h.addressable d (hsame ▸ hd), fun after hafter => ?_, ?_, .inr ⟨stage.presentation, ?_, ?_⟩⟩
    · simp only [Presenter.frame, hp, Option.some.injEq] at hafter
      exact hafter ▸ h.stage stage hp
    · intro v hv
      rw [hplaying] at hv
      simpa only [Writes, hsame] using h.voices v hv
    · rw [hsame, presentation?, hp, Option.map_some]
    · simp only [Presenter.frame, hp]
      exact h.length_readLights hp _

/-- **One call.** A call that sets up no more parts than there are ids keeps a presenter in step. -/
theorem InStep.call {p : Presenter} (h : p.InStep) (c : Call) (hc : ∀ d, c.presentation? = some d → d.Addressable) :
    (p.call c).state.InStep := by
  cases c with
  | activate d t =>
    cases hp : p.stage with
    | none =>
      simp only [Presenter.call, activate, hp]
      exact inStep_of_build rfl (hc d rfl) (h.playing_offStage hp) (h.brightness_offStage hp)
    | some stage =>
      simp only [Presenter.call, activate, hp]
      exact h
  | reload d t => exact inStep_of_build rfl (hc d rfl) rfl rfl
  | teardown =>
    refine ⟨fun d hd => ?_, fun stage hs => ?_, Voices.all_nil, .inl rfl⟩
    · simp [Presenter.call, teardown, presentation?] at hd
    · simp [Presenter.call, teardown] at hs
  | tick n scope o => exact h.tick n scope o
  | frame q scope => exact h.frame q scope
  | soundFinished sound =>
    exact ⟨h.addressable, h.stage, fun v hv => h.voices v (List.mem_of_mem_eraseP hv), h.brightness⟩

theorem InStep.run {p : Presenter} (h : p.InStep) (calls : List Call)
    (hc : ∀ c ∈ calls, ∀ d, c.presentation? = some d → d.Addressable) : (p.run calls).state.InStep :=
  run_keeps h fun _ c hmem hq => hq.call c (hc c hmem)

/-! ## Main result -/

/-- as long as ids are distinct, the lights that have a brightness are those that one was kept for -/
theorem isSome_brightnessOf? (p : Presenter) (hids : p.brightness.length ≤ 2 ^ 32) (light : LightId) :
    (p.brightnessOf? light).isSome ↔ light.place < p.brightness.length := by
  rw [brightnessOf?, Option.isSome_map, List.find?_isSome]
  simp only [List.mem_reverse, decide_eq_true_eq]
  constructor
  · rintro ⟨⟨b, i⟩, hmem, hi⟩
    have hlt : i < p.brightness.length := (List.mem_zipIdx hmem).2.1.trans_eq (by simp)
    rw [← (LightId.ofIndex_eq_iff (hlt.trans_le hids) light).1 hi]
    exact hlt
  · intro hlt
    refine ⟨(p.brightness[light.place], light.place), ?_, ?_⟩
    · rw [List.mk_mem_zipIdx_iff_getElem?]
      exact List.getElem?_eq_getElem hlt
    · exact (LightId.ofIndex_eq_iff (hlt.trans_le hids) light).2 rfl

/-- **In step.** After any calls on a new presenter, whose presentations have no more entries in a list than there are ids: on
stage, the parts are those of the presentation in order and every clock runs the animation of its own place, so that there are
as many clocks as animations; every voice has the name of the sound with its id and loops if and only if that sound does; no
sound that is not forced has two voices; and there is a brightness for the lights of the presentation and no others, or for
none at all. Off stage there is no voice, no brightness and no clock. -/
theorem reachable_in_step (entity : EntityId) (settings : Settings) (calls : List Call)
    (hc : ∀ c ∈ calls, ∀ d, c.presentation? = some d → d.Addressable) :
    let p := ((new entity settings).run calls).state
    (∀ stage, p.stage = some stage →
      stage.InStep ∧ p.clockCount = stage.presentation.animationCount ∧
      (∀ v ∈ p.playing, ∃ s, stage.presentation.sounds[v.sound.place]? = some s ∧ v.name = s.name ∧
        v.looping = s.looping) ∧
      (∀ k s, stage.presentation.sounds[k]? = some s → s.forced = false →
        (Voices.ofSound p.playing (.ofIndex k)).length ≤ 1) ∧
      ((∀ light, p.brightnessOf? light = none) ∨
        ∀ light, (p.brightnessOf? light).isSome ↔ light.place < stage.presentation.lights.length)) ∧
    (p.stage = none → p.playing = [] ∧ (∀ light, p.brightnessOf? light = none) ∧ p.clockCount = 0) := by
  intro p
  have h : p.InStep := (inStep_new entity settings).run calls hc
  have honce : p.AtMostOnce := Reachable.atMostOnce ⟨calls, rfl⟩
  have hdark : p.brightness = [] → ∀ light, p.brightnessOf? light = none := by
    intro hempty light
    rw [brightnessOf?, hempty]
    rfl
  refine ⟨fun stage hstage => ?_, fun hoff => ?_⟩
  · have hd : p.presentation? = some stage.presentation := by rw [presentation?, hstage, Option.map_some]
    refine ⟨h.stage stage hstage, ?_, fun v hv => ?_, fun k s hs hforced => ?_, ?_⟩
    · rw [clockCount, hstage, Option.map_some, Option.getD_some]
      exact (h.stage stage hstage).clockCount
    · obtain ⟨d, s, hd', hs, hname, hlooping⟩ := h.voices v hv
      obtain rfl : stage.presentation = d := Option.some.inj (hd.symm.trans hd')
      exact ⟨s, hs, hname.symm, hlooping.symm⟩
    · obtain ⟨l, hl, rfl⟩ := Option.map_eq_some_iff.1 ((h.sound_getElem? hstage k).trans hs)
      have hsounds : p.sounds = stage.sounds := by rw [sounds, hstage, Option.map_some, Option.getD_some]
      rw [← hsounds] at hl
      exact honce.onStage (hsounds ▸ h.length_sounds hstage) k l hl hforced
    · rcases h.brightness with hempty | ⟨d, hd', hlength⟩
      · exact .inl (hdark hempty)
      · obtain rfl : stage.presentation = d := Option.some.inj (hd.symm.trans hd')
        right
        rw [← hlength]
        exact p.isSome_brightnessOf? (hlength ▸ (h.addressable _ hd).lights)
  · refine ⟨h.playing_offStage hoff, hdark (h.brightness_offStage hoff), ?_⟩
    rw [clockCount, hoff]
    rfl

/-- a lamp that flashes, a bell that swings and a whistle that is blown -/
def buoy : Presentation :=
  ⟨[⟨"lamp", [Animation.plain .translation "flash"]⟩],
    [⟨"bell", false, false, false, false, [Animation.plain .visibility "calm"], [], []⟩,
      ⟨"whistle", true, false, false, false, [], [], [Animation.plain .translation "swell"]⟩], [], [], []⟩

/-- a buoy that lost its lamp and its bell -/
def wreckedBuoy : Presentation :=
  ⟨[], [⟨"whistle", true, false, false, false, [], [], [Animation.plain .translation "swell"]⟩], [], [], []⟩

/-- reloaded with less, the buoy has one clock left, its whistle plays once and under its new id, and there is no lamp -/
theorem reachable_in_step_buoy :
    let calls : List Call := [.activate buoy 0, .tick 1 (fun _ _ => some 0) {}, .reload wreckedBuoy 2,
      .tick 3 (fun _ _ => some 0) {}, .frame 0.5 (fun _ _ => none)]
    let p := ((new ⟨7⟩ {}).run calls).state
    (∀ c ∈ calls, ∀ d, c.presentation? = some d → d.Addressable) ∧ p.clockCount = 1 ∧
      p.playing.map (fun v => (v.sound, v.name)) = [(⟨0⟩, "whistle")] ∧
      (Voices.ofSound p.playing (.ofIndex 0)).length ≤ 1 ∧ p.brightnessOf? ⟨0⟩ = none := by
  intro calls p
  have hc : ∀ c ∈ calls, ∀ d, c.presentation? = some d → d.Addressable := by
    intro c hcall d hd
    simp only [calls, List.mem_cons, List.not_mem_nil, or_false] at hcall
    rcases hcall with rfl | rfl | rfl | rfl | rfl <;> cases hd <;> constructor <;> decide
  obtain ⟨stage, hstage⟩ : ∃ stage, p.stage = some stage := Option.isSome_iff_exists.1 (by decide +kernel)
  have hd : stage.presentation = wreckedBuoy := by
    have hpresentation : p.presentation? = some wreckedBuoy := by decide +kernel
    rw [presentation?, hstage] at hpresentation
    exact Option.some.inj hpresentation
  obtain ⟨-, hclocks, -, honce, hlit⟩ := (reachable_in_step ⟨7⟩ {} calls hc).1 stage hstage
  rw [hd] at hclocks honce hlit
  refine ⟨hc, hclocks, by decide +kernel, honce 0 _ rfl rfl, ?_⟩
  rcases hlit with hdark | hlit
  · exact hdark ⟨0⟩
  · have hnone : ¬(p.brightnessOf? ⟨0⟩).isSome := fun hsome => absurd ((hlit ⟨0⟩).1 hsome) (by decide)
    simpa using hnone

end Presenter

end Stagecraft
