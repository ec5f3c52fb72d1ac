/-
The parts of one entity keep apart. Look at some of the sounds, emitters, lights and objects of an entity and at nothing else:
two presenters whose presentations agree in what is looked at do the same with it, call by call, however much the rest differs.
The voices, the brightnesses and the outputs are shared by all parts, but what is seen of them depends on nothing unseen.

- `SameWithin.call`: calls alike in what is looked at keep presenters alike in it, and give the same of it.
- `parts_apart`: one sound, one emitter, one light, one object.
-/
import Mathlib.Tactic
import Stagecraft.Proofs.Presenter.Focus
import Stagecraft.Proofs.Presenter.InStep

namespace Stagecraft

/-! ## The same in what is looked at -/

/-- presentations with the same sounds, emitters, lights and objects at the places looked at -/
structure Presentation.SameWithin (f : Focus) (d d' : Presentation) : Prop where
  sounds : f.sounds d.sounds = f.sounds d'.sounds
  emitters : f.emitters d.emitters = f.emitters d'.emitters
  lights : f.lights d.lights = f.lights d'.lights
  objects : f.objects d.objects = f.objects d'.objects

/-- the same call, but for the presentation that it sets up, if any -/
inductive Call.Matches (same : Presentation → Presentation → Prop) : Call → Call → Prop
  | activate (d d' : Presentation) (tick : Nat) (h : same d d') : Matches same (.activate d tick) (.activate d' tick)
  | reload (d d' : Presentation) (tick : Nat) (h : same d d') : Matches same (.reload d tick) (.reload d' tick)
  | other (c : Call) (h : c.presentation? = none) : Matches same c c

namespace Answer

def lights : Answer → List LightOutput
  | .picture output => output.lights
  | _ => []

def poses : Answer → List ObjectOutput
  | .picture output => output.poses
  | _ => []

/-- answers that ask the same of the host for what is looked at, in the same order -/
structure SameWithin (f : Focus) (a a' : Answer) : Prop where
  audio : a.audio.filter (fun c => f.sound c.sound) = a'.audio.filter fun c => f.sound c.sound
  spawns : a.spawns.filter (fun s => f.particle s.particle) = a'.spawns.filter fun s => f.particle s.particle
  lights : a.lights.filter (fun l => f.light l.light) = a'.lights.filter fun l => f.light l.light
  poses : a.poses.filter (fun m => f.object m.object) = a'.poses.filter fun m => f.object m.object

end Answer

/-! ## One call -/

/-- stages with the same live sounds, emitters, lights and objects at the places looked at -/
structure Stage.SameWithin (f : Focus) (stage other : Stage) : Prop where
  sounds : f.sounds stage.sounds = f.sounds other.sounds
  emitters : f.emitters stage.emitters = f.emitters other.emitters
  lights : f.lights stage.lights = f.lights other.lights
  objects : f.objects stage.objects = f.objects other.objects

theorem Stage.sameWithin_build {f : Focus} {d d' : Presentation} (h : d.SameWithin f d') (curve : Curve) (tick : Nat) :
    (build curve d tick).SameWithin f (build curve d' tick) := by
  have hsounds := h.sounds
  have hemitters := h.emitters
  have hlights := h.lights
  have hobjects := h.objects
  simp only [Focus.sounds, Focus.emitters, Focus.lights, Focus.objects] at hsounds hemitters hlights hobjects
  constructor <;>
    simp only [build, Focus.sounds, Focus.emitters, Focus.lights, Focus.objects, within_map, hsounds, hemitters, hlights,
      hobjects]

namespace Presenter

/-- presenters with the same settings, both on stage or neither, that are the same in what is looked at -/
structure SameWithin (f : Focus) (p q : Presenter) : Prop where
  entity : p.entity = q.entity
  settings : p.settings = q.settings
  stage : (p.stage = none ∧ q.stage = none) ∨
    ∃ stage other, p.stage = some stage ∧ q.stage = some other ∧ stage.SameWithin f other
  playing : Voices.seen f.sound p.playing = Voices.seen f.sound q.playing
  brightness : f.lights p.brightness = f.lights q.brightness

theorem sameWithin_new (f : Focus) (entity : EntityId) (settings : Settings) :
    SameWithin f (new entity settings) (new entity settings) :=
  ⟨rfl, rfl, .inl ⟨rfl, rfl⟩, rfl, rfl⟩

section Tick

variable {f : Focus} {stage other : Stage} (h : stage.SameWithin f other) (s : Sampling)

include h

/-- lights that are the same where they are looked at are read alike there -/
theorem sameWithin_readLights :
    f.lights (stage.readLights s).state = f.lights (other.readLights s).state ∧
      f.lights (stage.readLights s).output = f.lights (other.readLights s).output := by
  have hlights := h.lights
  simp only [Focus.lights] at hlights ⊢
  constructor
  · simp only [Stage.readLights, Reading.within_state, hlights]
  · simp only [Stage.readLights_output, within_map, hlights]

theorem sameWithin_readObjects :
    f.objects (stage.readObjects s).state = f.objects (other.readObjects s).state ∧
      f.objects (stage.readObjects s).output = f.objects (other.readObjects s).output := by
  have hobjects := h.objects
  simp only [Focus.objects] at hobjects ⊢
  constructor
  · simp only [Stage.readObjects, Reading.within_state, hobjects]
  · simp only [Stage.readObjects_output, within_map, hobjects]

/-- and so for emitters, and for what is seen of the spawns -/
theorem sameWithin_tickEmitters (entity : EntityId) (n : Nat) :
    let all := fun emitters => Reading.all (LiveEmitter.tick s entity n) 0 emitters
    f.emitters (all stage.emitters).state = f.emitters (all other.emitters).state ∧
      (all stage.emitters).output.filter (fun spawn => f.particle spawn.particle) =
        (all other.emitters).output.filter fun spawn => f.particle spawn.particle := by
  intro all
  have hemitters := h.emitters
  have hunseen : ∀ index (l : LiveEmitter), f.particle (.ofIndex index) = false →
      (l.tick s entity n index).output.filter (fun spawn => f.particle spawn.particle) = [] := by
    intro index l hindex
    unfold LiveEmitter.tick
    simp only
    split_ifs
    · simp [hindex]
    · rfl
  simp only [Focus.emitters] at hemitters ⊢
  constructor
  · simp only [all, Reading.within_state, hemitters]
  · simp only [all, Reading.filter_output (fun k => f.particle (.ofIndex k)) _ _ hunseen, hemitters]

/-- and for sounds, with voices that are the same where they are looked at -/
theorem sameWithin_tickSounds (hearing : Hearing) {playing others : List Voice}
    (hplaying : Voices.seen f.sound playing = Voices.seen f.sound others) :
    let first := LiveSound.tickAll hearing 0 playing stage.sounds
    let second := LiveSound.tickAll hearing 0 others other.sounds
    f.sounds first.state.1 = f.sounds second.state.1 ∧
      Voices.seen f.sound first.state.2 = Voices.seen f.sound second.state.2 ∧
      first.output.filter (fun c => f.sound c.sound) = second.output.filter fun c => f.sound c.sound := by
  intro first second
  obtain ⟨houtput, hstate, hvoices⟩ := LiveSound.turns_within f.sound hearing 0 playing stage.sounds
  obtain ⟨houtput', hstate', hvoices'⟩ := LiveSound.turns_within f.sound hearing 0 others other.sounds
  have hsounds := h.sounds
  simp only [Focus.sounds] at hsounds ⊢
  rw [hplaying, hsounds] at houtput hstate hvoices
  exact ⟨hstate.trans hstate'.symm, hvoices.trans hvoices'.symm, houtput.trans houtput'.symm⟩

end Tick

theorem SameWithin.tick {f : Focus} {p q : Presenter} (h : SameWithin f p q) (n : Nat) (scope : Scope) (o : Observer) :
    Answer.SameWithin f (.effects (p.tick n scope o).output) (.effects (q.tick n scope o).output) ∧
      SameWithin f (p.tick n scope o).state (q.tick n scope o).state := by
  rcases h.stage with ⟨hp, hq⟩ | ⟨stage, other, hp, hq, hstage⟩
  · simp only [Presenter.tick, hp, hq]
    exact ⟨⟨rfl, rfl, rfl, rfl⟩, h⟩
  · obtain ⟨hsounds, hvoices, hcues⟩ :=
      sameWithin_tickSounds hstage ⟨⟨.tick, scope 0⟩, p.entity, o, p.settings.enclosedAttenuation⟩ h.playing
    obtain ⟨hemitters, hspawns⟩ := sameWithin_tickEmitters hstage ⟨.tick, scope 0⟩ p.entity n
    obtain ⟨hlights, hbrightness⟩ := sameWithin_readLights hstage ⟨.tick, scope 0⟩
    obtain ⟨hobjects, -⟩ := sameWithin_readObjects hstage ⟨.tick, scope 0⟩
    simp only [Presenter.tick, hp, hq, ← h.entity, ← h.settings]
    exact ⟨⟨hcues, hspawns, rfl, rfl⟩, rfl, rfl,
      .inr ⟨_, _, rfl, rfl, ⟨hsounds, hemitters, hlights, hobjects⟩⟩, hvoices, hbrightness⟩

/-- pictures of what is the same where it is looked at show the same of it -/
theorem filter_picture {τ ω : Type} (looks : Nat → Bool) (draw : τ × Nat → ω) (shows : ω → Bool)
    (hshows : ∀ part, shows (draw part) = looks part.2) {outputs others : List τ}
    (h : within looks 0 outputs = within looks 0 others) :
    (outputs.zipIdx.map draw).filter shows = (others.zipIdx.map draw).filter shows := by
  have hlooks : shows ∘ draw = fun part => looks part.2 := funext hshows
  rw [List.filter_map, List.filter_map, hlooks]
  exact congrArg (List.map draw) h

theorem SameWithin.frame {f : Focus} {p q : Presenter} (h : SameWithin f p q) (t : Float32) (scope : Scope) :
    Answer.SameWithin f (.picture (p.frame t scope).output) (.picture (q.frame t scope).output) ∧
      SameWithin f (p.frame t scope).state (q.frame t scope).state := by
  rcases h.stage with ⟨hp, hq⟩ | ⟨stage, other, hp, hq, hstage⟩
  · simp only [Presenter.frame, hp, hq]
    exact ⟨⟨rfl, rfl, rfl, rfl⟩, h⟩
  · obtain ⟨-, hbrightness⟩ := sameWithin_readLights hstage ⟨.frame, scope t⟩
    obtain ⟨-, hposes⟩ := sameWithin_readObjects hstage ⟨.frame, scope t⟩
    simp only [Presenter.frame, hp, hq, ← h.entity, ← h.settings]
    refine ⟨⟨rfl, rfl, ?_, ?_⟩, rfl, rfl, .inr ⟨_, _, rfl, rfl, hstage⟩, h.playing, hbrightness⟩
    · exact filter_picture (fun k => f.light (.ofIndex k)) (fun part => LightOutput.mk p.entity (.ofIndex part.2) part.1)
        (fun l => f.light l.light) (fun _ => rfl) hbrightness
    · exact filter_picture (fun k => f.object (.ofIndex k)) (fun part => ObjectOutput.mk p.entity (.ofIndex part.2) part.1)
        (fun m => f.object m.object) (fun _ => rfl) hposes

/-- a report that a voice has finished takes the oldest voice of its sound, seen or unseen -/
theorem SameWithin.soundFinished {f : Focus} {p q : Presenter} (h : SameWithin f p q) (id : SoundId) :
    SameWithin f (p.soundFinished id).1 (q.soundFinished id).1 := by
  refine ⟨h.entity, h.settings, h.stage, ?_, h.brightness⟩
  simp only [Presenter.soundFinished]
  cases hid : f.sound id with
  | true => rw [Voices.seen_dropOldest _ hid, Voices.seen_dropOldest _ hid, h.playing]
  | false => rw [Voices.seen_dropOldest_of_unseen _ hid, Voices.seen_dropOldest_of_unseen _ hid, h.playing]

/-- whatever was on stage, what is seen of the cues that stop it is the same -/
theorem SameWithin.stopAll {f : Focus} {p q : Presenter} (h : SameWithin f p q) :
    Answer.SameWithin f (.effects { audio := Voices.stopAll p.entity p.playing })
      (.effects { audio := Voices.stopAll q.entity q.playing }) := by
  refine ⟨?_, rfl, rfl, rfl⟩
  simp only [Answer.audio, Voices.seen_stopAll, h.entity, h.playing]

/-- **One call.** Presenters that are the same in what is looked at, and calls that are, give the same of it and lead to the
same. -/
theorem SameWithin.call {f : Focus} {p q : Presenter} (h : SameWithin f p q) {c c' : Call}
    (hc : Call.Matches (Presentation.SameWithin f) c c') :
    Answer.SameWithin f (p.call c).output (q.call c').output ∧ SameWithin f (p.call c).state (q.call c').state := by
  cases hc with
  | activate d d' t hd =>
    refine ⟨⟨rfl, rfl, rfl, rfl⟩, ?_⟩
    rcases h.stage with ⟨hp, hq⟩ | ⟨stage, other, hp, hq, hstage⟩
    · simp only [Presenter.call, activate, hp, hq, ← h.settings]
      exact ⟨h.entity, rfl, .inr ⟨_, _, rfl, rfl, Stage.sameWithin_build hd _ t⟩, h.playing, h.brightness⟩
    · simp only [Presenter.call, activate, hp, hq]
      exact h
  | reload d d' t hd =>
    refine ⟨h.stopAll, h.entity, h.settings, .inr ⟨_, _, rfl, rfl, ?_⟩, rfl, rfl⟩
    rw [h.settings]
    exact Stage.sameWithin_build hd _ t
  | other c hnone =>
    cases c with
    | activate d t => cases hnone
    | reload d t => cases hnone
    | teardown => exact ⟨h.stopAll, h.entity, h.settings, .inl ⟨rfl, rfl⟩, rfl, rfl⟩
    | tick n scope o => exact h.tick n scope o
    | frame t scope => exact h.frame t scope
    | soundFinished id => exact ⟨⟨rfl, rfl, rfl, rfl⟩, h.soundFinished id⟩

/-- **Runs.** And so for runs, answer by answer. -/
theorem SameWithin.run {f : Focus} {p q : Presenter} (h : SameWithin f p q) {calls calls' : List Call}
    (hc : List.Forall₂ (Call.Matches (Presentation.SameWithin f)) calls calls') :
    List.Forall₂ (Answer.SameWithin f) (p.run calls).output (q.run calls').output ∧
      SameWithin f (p.run calls).state (q.run calls').state := by
  induction hc generalizing p q with
  | nil => exact ⟨.nil, h⟩
  | cons hfirst _ ih =>
    obtain ⟨hanswer, hstate⟩ := h.call hfirst
    obtain ⟨hanswers, hend⟩ := ih hstate
    exact ⟨.cons hanswer hanswers, hend⟩

end Presenter

/-! ## One part -/

/-- presentations, no larger than there are ids, with the same entry at one place of one of their lists -/
structure Presentation.SameAt {τ : Type} (parts : Presentation → List τ) (place : Nat) (d d' : Presentation) : Prop where
  addressable : d.Addressable
  addressable' : d'.Addressable
  entry : (parts d)[place]? = (parts d')[place]?

/-- where only one id is looked at, lists with the same entry at its place are the same -/
theorem within_eq_of_place {τ ι : Type} [DecidableEq ι] {ofIndex : Nat → ι} {id : ι} {place : Nat}
    (hplace : ∀ i < 2 ^ 32, ofIndex i = id ↔ i = place) {parts parts' : List τ} (hlength : parts.length ≤ 2 ^ 32)
    (hlength' : parts'.length ≤ 2 ^ 32) (h : parts[place]? = parts'[place]?) :
    within (fun k => decide (ofIndex k = id)) 0 parts = within (fun k => decide (ofIndex k = id)) 0 parts' := by
  have hlooks : ∀ k < 2 ^ 32, decide (ofIndex (0 + k) = id) = decide (k = place) := by
    intro k hk
    rw [Nat.zero_add]
    exact decide_eq_decide.2 (hplace k hk)
  rw [within_place _ place 0 parts fun k hk => hlooks k (hk.trans_le hlength),
    within_place _ place 0 parts' fun k hk => hlooks k (hk.trans_le hlength'), h]

namespace Focus

def onSound (id : SoundId) : Focus := { sound := fun sound => decide (sound = id) }

def onParticle (id : ParticleId) : Focus := { particle := fun particle => decide (particle = id) }

def onLight (id : LightId) : Focus := { light := fun light => decide (light = id) }

def onObject (id : ObjectId) : Focus := { object := fun object => decide (object = id) }

end Focus

namespace Presentation

variable {d d' : Presentation}

theorem SameAt.sound {id : SoundId} (h : SameAt (·.sounds) id.place d d') : d.SameWithin (.onSound id) d' where
  sounds := within_eq_of_place (fun _ hi => SoundId.ofIndex_eq_iff hi id) h.addressable.sounds h.addressable'.sounds h.entry
  emitters := within_nothing 0 _ _
  lights := within_nothing 0 _ _
  objects := within_nothing 0 _ _

theorem SameAt.particle {id : ParticleId} (h : SameAt (·.emitters) id.place d d') : d.SameWithin (.onParticle id) d' where
  sounds := within_nothing 0 _ _
  emitters :=
    within_eq_of_place (fun _ hi => ParticleId.ofIndex_eq_iff hi id) h.addressable.emitters h.addressable'.emitters h.entry
  lights := within_nothing 0 _ _
  objects := within_nothing 0 _ _

theorem SameAt.light {id : LightId} (h : SameAt (·.lights) id.place d d') : d.SameWithin (.onLight id) d' where
  sounds := within_nothing 0 _ _
  emitters := within_nothing 0 _ _
  lights := within_eq_of_place (fun _ hi => LightId.ofIndex_eq_iff hi id) h.addressable.lights h.addressable'.lights h.entry
  objects := within_nothing 0 _ _

theorem SameAt.object {id : ObjectId} (h : SameAt (·.objects) id.place d d') : d.SameWithin (.onObject id) d' where
  sounds := within_nothing 0 _ _
  emitters := within_nothing 0 _ _
  lights := within_nothing 0 _ _
  objects :=
    within_eq_of_place (fun _ hi => ObjectId.ofIndex_eq_iff hi id) h.addressable.objects h.addressable'.objects h.entry

end Presentation

theorem Call.Matches.mono {same same' : Presentation → Presentation → Prop} (hsame : ∀ d d', same d d' → same' d d')
    {c c' : Call} (h : Matches same c c') : Matches same' c c' := by
  cases h with
  | activate d d' t hd => exact .activate d d' t (hsame d d' hd)
  | reload d d' t hd => exact .reload d d' t (hsame d d' hd)
  | other c hnone => exact .other c hnone

namespace Presenter

/-- the brightness of a light is the last of those that are seen when one looks at the light -/
theorem brightnessOf?_eq_seen (p : Presenter) (id : LightId) :
    p.brightnessOf? id = ((Focus.onLight id).lights p.brightness).getLast?.map (·.1) := by
  rw [brightnessOf?, ← List.head?_filter, List.filter_reverse, List.head?_reverse]
  rfl

/-- runs of presentations that are the same where one looks, from a new presenter -/
theorem sameWithin_run {f : Focus} {same : Presentation → Presentation → Prop}
    (hsame : ∀ d d', same d d' → d.SameWithin f d') (entity : EntityId) (settings : Settings) {calls calls' : List Call}
    (hc : List.Forall₂ (Call.Matches same) calls calls') :
    List.Forall₂ (Answer.SameWithin f) ((new entity settings).run calls).output ((new entity settings).run calls').output ∧
      SameWithin f ((new entity settings).run calls).state ((new entity settings).run calls').state :=
  (sameWithin_new f entity settings).run (hc.imp fun _ _ => Call.Matches.mono hsame)

/-- **The parts keep apart.** Take two new presenters of one entity and the same calls on both, but for the presentations that
are set up. If these always have the same sound at one place, both runs give the same cues for the sound with the id of that
place, call by call and in the same order. Likewise for the spawns of an emitter, for the brightness of a light in every frame
and as kept after the last call, and for the poses of a moving object. -/
theorem parts_apart (entity : EntityId) (settings : Settings) (calls calls' : List Call) :
    let run := (new entity settings).run calls
    let run' := (new entity settings).run calls'
    (∀ id : SoundId, List.Forall₂ (Call.Matches (Presentation.SameAt (·.sounds) id.place)) calls calls' →
      List.Forall₂ (fun a a' => a.audio.filter (·.sound = id) = a'.audio.filter (·.sound = id)) run.output run'.output) ∧
    (∀ id : ParticleId, List.Forall₂ (Call.Matches (Presentation.SameAt (·.emitters) id.place)) calls calls' →
      List.Forall₂ (fun a a' => a.spawns.filter (·.particle = id) = a'.spawns.filter (·.particle = id))
        run.output run'.output) ∧
    (∀ id : LightId, List.Forall₂ (Call.Matches (Presentation.SameAt (·.lights) id.place)) calls calls' →
      List.Forall₂ (fun a a' => a.lights.filter (·.light = id) = a'.lights.filter (·.light = id)) run.output run'.output ∧
        run.state.brightnessOf? id = run'.state.brightnessOf? id) ∧
    (∀ id : ObjectId, List.Forall₂ (Call.Matches (Presentation.SameAt (·.objects) id.place)) calls calls' →
      List.Forall₂ (fun a a' => a.poses.filter (·.object = id) = a'.poses.filter (·.object = id))
        run.output run'.output) := by
  intro run run'
  refine ⟨fun id hc => ?_, fun id hc => ?_, fun id hc => ?_, fun id hc => ?_⟩
  · obtain ⟨hanswers, -⟩ := sameWithin_run (fun _ _ => Presentation.SameAt.sound) entity settings hc
    exact hanswers.imp fun _ _ hsame => hsame.audio
  · obtain ⟨hanswers, -⟩ := sameWithin_run (fun _ _ => Presentation.SameAt.particle) entity settings hc
    exact hanswers.imp fun _ _ hsame => hsame.spawns
  · obtain ⟨hanswers, hstate⟩ := sameWithin_run (fun _ _ => Presentation.SameAt.light) entity settings hc
    refine ⟨hanswers.imp fun _ _ hsame => hsame.lights, ?_⟩
    rw [brightnessOf?_eq_seen, brightnessOf?_eq_seen, hstate.brightness]
  · obtain ⟨hanswers, -⟩ := sameWithin_run (fun _ _ => Presentation.SameAt.object) entity settings hc
    exact hanswers.imp fun _ _ hsame => hsame.poses

/-- a bell that swings and an engine that runs, smoke, a mast light and a turning propeller -/
def ferry : Presentation :=
  ⟨[⟨"mast", [Animation.plain .translation "power"]⟩],
    [⟨"bell", false, true, false, false, [], [], []⟩,
      ⟨"engine", true, false, false, false, [Animation.plain .visibility "calm"], [], []⟩],
    [⟨"smoke", 3, true, [Animation.plain .visibility "calm"]⟩], [⟨"propeller", [Animation.plain .rotation "speed"]⟩], []⟩

/-- the same engine, smoke, mast light and propeller, but a horn in place of the bell, and a siren, a lamp and a spray more -/
def tug : Presentation :=
  ⟨[⟨"mast", [Animation.plain .translation "power"]⟩, ⟨"lamp", []⟩],
    [⟨"horn", true, false, false, false, [], [], []⟩,
      ⟨"engine", true, false, false, false, [Animation.plain .visibility "calm"], [], []⟩,
      ⟨"siren", false, true, false, false, [], [], []⟩],
    [⟨"smoke", 3, true, [Animation.plain .visibility "calm"]⟩, ⟨"spray", 1, true, []⟩],
    [⟨"propeller", [Animation.plain .rotation "speed"]⟩], []⟩

/-- what goes on with one of the two -/
def crossing (d : Presentation) : List Call :=
  [.activate d 0, .tick 1 (fun _ _ => some 0) {}, .frame 0.5 (fun _ _ => some 1), .soundFinished ⟨0⟩,
    .tick 2 (fun _ _ => some 0) {}, .reload d 3, .tick 4 (fun _ _ => some 0) {}, .teardown]

/-- what the two have in common does the same on both, though the crossings differ -/
theorem parts_apart_crossing :
    let run := (new ⟨7⟩ {}).run (crossing ferry)
    let run' := (new ⟨7⟩ {}).run (crossing tug)
    run.output ≠ run'.output ∧
      List.Forall₂ (fun a a' => a.audio.filter (·.sound = ⟨1⟩) = a'.audio.filter (·.sound = ⟨1⟩)) run.output run'.output ∧
      List.Forall₂ (fun a a' => a.spawns.filter (·.particle = ⟨0⟩) = a'.spawns.filter (·.particle = ⟨0⟩))
        run.output run'.output ∧
      List.Forall₂ (fun a a' => a.lights.filter (·.light = ⟨0⟩) = a'.lights.filter (·.light = ⟨0⟩))
        run.output run'.output ∧
      List.Forall₂ (fun a a' => a.poses.filter (·.object = ⟨0⟩) = a'.poses.filter (·.object = ⟨0⟩))
        run.output run'.output := by
  intro run run'
  have hferry : ferry.Addressable := by constructor <;> decide
  have htug : tug.Addressable := by constructor <;> decide
  have hcalls : ∀ {τ : Type} (parts : Presentation → List τ) (place : Nat),
      (parts ferry)[place]? = (parts tug)[place]? →
      List.Forall₂ (Call.Matches (Presentation.SameAt parts place)) (crossing ferry) (crossing tug) := by
    intro τ parts place hentry
    have hsame : Presentation.SameAt parts place ferry tug := ⟨hferry, htug, hentry⟩
    exact .cons (.activate _ _ _ hsame) <| .cons (.other _ rfl) <| .cons (.other _ rfl) <| .cons (.other _ rfl) <|
      .cons (.other _ rfl) <| .cons (.reload _ _ _ hsame) <| .cons (.other _ rfl) <| .cons (.other _ rfl) .nil
  obtain ⟨hsounds, hparticles, hlights, hobjects⟩ := parts_apart ⟨7⟩ {} (crossing ferry) (crossing tug)
  exact ⟨by decide +kernel, hsounds ⟨1⟩ (hcalls (·.sounds) 1 rfl), hparticles ⟨0⟩ (hcalls (·.emitters) 0 rfl),
    (hlights ⟨0⟩ (hcalls (·.lights) 0 rfl)).1, hobjects ⟨0⟩ (hcalls (·.objects) 0 rfl)⟩

end Presenter

end Stagecraft
