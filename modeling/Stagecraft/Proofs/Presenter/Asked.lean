/-
What a presenter asks for. A tick or a frame reads some of the tracks on stage: those of a sound only if the observer hears it, and
those of its volume and its pitch only if it plays then, and of every channel those that its gates let be read. It asks for the
variables of these tracks and for no other name. So a name that it notes as having no value is a variable on stage; on a stage in
step with its presentation, those are the variables of the presentation.

- `tracksTicked`, `tracksShown`: the tracks that a tick and a frame read.
- `asked_ticked`, `asked_shown`: they ask for the variables of these.
- `noted_tick`, `noted_frame`: what is remembered or reported that was not before.
- `StageInStep.run`: every stage that calls lead to is in step with its presentation.
-/
import Mathlib.Tactic
import Stagecraft.Presentation.Channels
import Stagecraft.Proofs.Channel.Reads
import Stagecraft.Proofs.Presenter.InStep

namespace Stagecraft

/-! ## Readings -/

/-- the variables of the animations in a list -/
def sources (as : List (Animation Float)) : List String := as.map (·.source)

/-- the variables of some tracks, in order -/
def askedFor (ts : List Track) : List String := ts.map (·.animation.source)

theorem askedFor_append (ts us : List Track) : askedFor (ts ++ us) = askedFor ts ++ askedFor us := List.map_append

/-- parts that are read one after the other ask for what each of them asks for -/
theorem Reading.asked_all {τ ω : Type} {read : Nat → τ → Reading τ ω} {tracks : τ → List Track}
    (hread : ∀ index part, (read index part).asked = askedFor (tracks part)) (index : Nat) (parts : List τ) :
    (Reading.all read index parts).asked = askedFor (parts.flatMap tracks) := by
  induction parts generalizing index with
  | nil => rfl
  | cons part parts ih =>
    rw [List.flatMap_cons, askedFor_append]
    exact congrArg₂ (· ++ ·) (hread index part) (ih (index + 1))

/-! ## Parts -/

/-- the tracks of a light that a reading of it reads -/
def LiveLight.tracksRead (s : Sampling) (l : LiveLight) : List Track := l.brightness.tracksRead s [.translation] false

theorem LiveLight.asked_read (s : Sampling) (l : LiveLight) : (l.read s).asked = askedFor (l.tracksRead s) :=
  Channel.asked_eq s Sweep.uses_brightness none Channel.settleBrightness l.brightness

def LiveObject.tracksRead (s : Sampling) (o : LiveObject) : List Track :=
  o.motion.tracksRead s [.translation, .rotation, .scaling] false

theorem LiveObject.asked_read (s : Sampling) (o : LiveObject) : (o.read s).asked = askedFor (o.tracksRead s) :=
  Channel.asked_eq s Sweep.uses_pose [] Channel.settlePose o.motion

def LiveEmitter.tracksRead (s : Sampling) (l : LiveEmitter) : List Track := l.active.tracksRead s [] false

theorem LiveEmitter.asked_tick (s : Sampling) (entity : EntityId) (n index : Nat) (l : LiveEmitter) :
    (l.tick s entity n index).asked = askedFor (l.tracksRead s) := by
  have hgate : (l.active.gate s).asked = askedFor (l.tracksRead s) :=
    Channel.asked_eq s Sweep.uses_gate () _ l.active
  unfold tick
  simp only
  split_ifs <;> exact hgate

namespace LiveSound

/-- the tracks of a sound that a tick reads -/
def tracksRead (h : Hearing) (l : LiveSound) : List Track :=
  if h.observer.hears l.sound.interior l.sound.exterior then
    l.active.tracksRead h.sampling [] false ++
      if plays l.sound (l.active.gate h.sampling).result then
        l.volume.tracksRead h.sampling [.translation, .rotation] false ++
          l.pitch.tracksRead h.sampling [.translation, .rotation] false
      else []
  else []

theorem tracksRead_subset (h : Hearing) (l : LiveSound) : l.tracksRead h ⊆ l.active ++ l.volume ++ l.pitch := by
  intro t ht
  unfold tracksRead at ht
  split_ifs at ht
  · simp only [List.mem_append] at ht ⊢
    rcases ht with hactive | hvolume | hpitch
    · exact .inl (.inl (Channel.tracksRead_subset _ _ _ _ hactive))
    · exact .inl (.inr (Channel.tracksRead_subset _ _ _ _ hvolume))
    · exact .inr (Channel.tracksRead_subset _ _ _ _ hpitch)
  · rw [List.append_nil] at ht
    exact List.mem_append_left _ (List.mem_append_left _ (Channel.tracksRead_subset _ _ _ _ ht))
  · cases ht

theorem asked_tick (h : Hearing) (id : SoundId) (playing : List Voice) (l : LiveSound) :
    (l.tick h id playing).asked = askedFor (l.tracksRead h) := by
  have hgate : (l.active.gate h.sampling).asked = askedFor (l.active.tracksRead h.sampling [] false) :=
    Channel.asked_eq h.sampling Sweep.uses_gate () _ l.active
  have hlevel : ∀ c : Channel, (c.level h.sampling).asked =
      askedFor (c.tracksRead h.sampling [.translation, .rotation] false) :=
    fun c => Channel.asked_eq h.sampling Sweep.uses_level none _ c
  unfold tick heardGate tracksRead
  cases h.observer.hears l.sound.interior l.sound.exterior with
  | false => rfl
  | true =>
    simp only [if_true]
    split_ifs
    · simp only [hgate, hlevel, askedFor_append, List.append_assoc]
    · simp only [hgate, List.append_nil]

theorem asked_tickAll (h : Hearing) (index : Nat) (playing : List Voice) (ls : List LiveSound) :
    (tickAll h index playing ls).asked = askedFor (ls.flatMap (·.tracksRead h)) := by
  induction ls generalizing index playing with
  | nil => rfl
  | cons l ls ih =>
    rw [List.flatMap_cons, askedFor_append]
    exact congrArg₂ (· ++ ·) (asked_tick h _ playing l) (ih _ _)

/-- the animations of a sound on stage -/
def animations (l : LiveSound) : List (Animation Float) := l.script.2.1 ++ l.script.2.2.1 ++ l.script.2.2.2

end LiveSound

/-! ## Stages -/

namespace Stage

/-- the tracks of lights and moving objects that a tick or a frame reads -/
def tracksShown (s : Sampling) (stage : Stage) : List Track :=
  stage.lights.flatMap (·.tracksRead s) ++ stage.objects.flatMap (·.tracksRead s)

/-- the tracks that a tick reads -/
def tracksTicked (h : Hearing) (stage : Stage) : List Track :=
  stage.sounds.flatMap (·.tracksRead h) ++ stage.emitters.flatMap (·.tracksRead h.sampling) ++ stage.tracksShown h.sampling

theorem asked_shown (s : Sampling) (stage : Stage) :
    (stage.readLights s).asked ++ (stage.readObjects s).asked = askedFor (stage.tracksShown s) := by
  have hlights : (stage.readLights s).asked = askedFor (stage.lights.flatMap (·.tracksRead s)) :=
    Reading.asked_all (fun _ l => l.asked_read s) 0 stage.lights
  have hobjects : (stage.readObjects s).asked = askedFor (stage.objects.flatMap (·.tracksRead s)) :=
    Reading.asked_all (fun _ o => o.asked_read s) 0 stage.objects
  rw [hlights, hobjects, tracksShown, askedFor_append]

theorem asked_ticked (h : Hearing) (playing : List Voice) (entity : EntityId) (n : Nat) (stage : Stage) :
    (LiveSound.tickAll h 0 playing stage.sounds).asked ++
        (Reading.all (LiveEmitter.tick h.sampling entity n) 0 stage.emitters).asked ++
        (stage.readLights h.sampling).asked ++ (stage.readObjects h.sampling).asked =
      askedFor (stage.tracksTicked h) := by
  have hemitters : (Reading.all (LiveEmitter.tick h.sampling entity n) 0 stage.emitters).asked =
      askedFor (stage.emitters.flatMap (·.tracksRead h.sampling)) :=
    Reading.asked_all (fun index l => l.asked_tick h.sampling entity n index) 0 stage.emitters
  rw [LiveSound.asked_tickAll, hemitters, List.append_assoc, asked_shown, tracksTicked, askedFor_append, askedFor_append]

/-- the animations that the clocks on a stage run -/
def animations (stage : Stage) : List (Animation Float) :=
  stage.lights.flatMap (·.script.2) ++ stage.sounds.flatMap LiveSound.animations ++
    stage.emitters.flatMap (·.script.2) ++ stage.objects.flatMap (·.script.2)

/-- on a stage in step they are those of the presentation -/
theorem InStep.animations {stage : Stage} (h : stage.InStep) : stage.animations = stage.presentation.animations := by
  have hlights := congrArg (List.flatMap (·.2)) h.lights
  have hsounds := congrArg (List.flatMap fun s => s.2.1 ++ s.2.2.1 ++ s.2.2.2) h.sounds
  have hemitters := congrArg (List.flatMap (·.2)) h.emitters
  have hobjects := congrArg (List.flatMap (·.2)) h.objects
  rw [List.flatMap_map, List.flatMap_map] at hlights hsounds hemitters hobjects
  rw [Presentation.animations_eq, ← hlights, ← hsounds, ← hemitters, ← hobjects]
  rfl

variable {stage : Stage} {t : Track}

theorem animation_mem_of_shown {s : Sampling} (ht : t ∈ stage.tracksShown s) : t.animation ∈ stage.animations := by
  simp only [tracksShown, List.mem_append, List.mem_flatMap] at ht
  simp only [animations, List.mem_append, List.mem_flatMap]
  rcases ht with ⟨l, hl, ht⟩ | ⟨o, ho, ht⟩
  · exact .inl (.inl (.inl ⟨l, hl, List.mem_map_of_mem (Channel.tracksRead_subset _ _ _ _ ht)⟩))
  · exact .inr ⟨o, ho, List.mem_map_of_mem (Channel.tracksRead_subset _ _ _ _ ht)⟩

/-- a track that a tick reads runs one of them -/
theorem animation_mem_of_ticked {h : Hearing} (ht : t ∈ stage.tracksTicked h) : t.animation ∈ stage.animations := by
  simp only [tracksTicked, List.mem_append, List.mem_flatMap] at ht
  rcases ht with (⟨l, hl, ht⟩ | ⟨l, hl, ht⟩) | ht
  · have hsound : t.animation ∈ l.animations := by
      rw [LiveSound.animations, LiveSound.script, ← List.map_append, ← List.map_append]
      exact List.mem_map_of_mem (l.tracksRead_subset h ht)
    simp only [animations, List.mem_append, List.mem_flatMap]
    exact .inl (.inl (.inr ⟨l, hl, hsound⟩))
  · simp only [animations, List.mem_append, List.mem_flatMap]
    exact .inl (.inr ⟨l, hl, List.mem_map_of_mem (Channel.tracksRead_subset _ _ _ _ ht)⟩)
  · exact animation_mem_of_shown ht

end Stage

/-! ## Presenters -/

namespace Presenter

variable {p : Presenter} {stage : Stage}

/-- the names without an answer among those that some tracks ask for -/
theorem mem_unresolved {s : Sampling} {ts : List Track} {name : String} :
    name ∈ unresolved s (askedFor ts) ↔ ∃ t ∈ ts, t.animation.source = name ∧ s.resolve name = none := by
  simp only [unresolved, askedFor, List.mem_filter, List.mem_map, Option.isNone_iff_eq_none, ← and_assoc, ← exists_and_right]

/-- a name that a tick notes is a variable on stage, and has no answer -/
theorem noted_tick (hp : p.stage = some stage) (n : Nat) (scope : Scope) (o : Observer) {name : String}
    (h : p.unanswered.Notes (p.tick n scope o).state.unanswered (p.tick n scope o).events name) :
    name ∈ sources stage.animations ∧ (⟨.tick, scope 0⟩ : Sampling).resolve name = none := by
  simp only [tick, hp] at h
  have hmissed := Unanswered.notes_noteAll _ _ h
  rw [Stage.asked_ticked] at hmissed
  obtain ⟨t, ht, rfl, hnone⟩ := mem_unresolved.1 hmissed
  exact ⟨List.mem_map_of_mem (Stage.animation_mem_of_ticked ht), hnone⟩

/-- and so is a name that a frame notes -/
theorem noted_frame (hp : p.stage = some stage) (q : Float32) (scope : Scope) {name : String}
    (h : p.unanswered.Notes (p.frame q scope).state.unanswered (p.frame q scope).events name) :
    name ∈ sources stage.animations ∧ (⟨.frame, scope q⟩ : Sampling).resolve name = none := by
  simp only [frame, hp] at h
  have hmissed := Unanswered.notes_noteAll _ _ h
  rw [Stage.asked_shown] at hmissed
  obtain ⟨t, ht, rfl, hnone⟩ := mem_unresolved.1 hmissed
  exact ⟨List.mem_map_of_mem (Stage.animation_mem_of_shown ht), hnone⟩

/-! ## Stages that calls lead to -/

/-- whatever is on stage is in step with its presentation -/
def StageInStep (p : Presenter) : Prop := ∀ stage, p.stage = some stage → stage.InStep

theorem StageInStep.call (h : p.StageInStep) (c : Call) : (p.call c).state.StageInStep := by
  cases c with
  | activate d t =>
    cases hp : p.stage with
    | none =>
      simp only [Presenter.call, activate, hp]
      rintro _ ⟨⟩
      exact Stage.inStep_build _ d t
    | some stage =>
      simp only [Presenter.call, activate, hp]
      exact h
  | reload d t =>
    rintro _ ⟨⟩
    exact Stage.inStep_build _ d t
  | teardown => rintro _ ⟨⟩
  | tick n scope o => exact p.inStep_tick h n scope o
  | frame q scope =>
    simp only [Presenter.call, frame]
    split <;> exact h
  | soundFinished sound => exact h

theorem StageInStep.run (h : p.StageInStep) (calls : List Call) : (p.run calls).state.StageInStep :=
  run_keeps h fun _ c _ hq => hq.call c

theorem Reachable.stageInStep {entity : EntityId} {settings : Settings} (h : Reachable entity settings p) :
    p.StageInStep := by
  obtain ⟨calls, rfl⟩ := h
  exact StageInStep.run (nofun : (new entity settings).StageInStep) calls

end Presenter

end Stagecraft
