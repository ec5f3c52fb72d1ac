/-
One-shot effects. While a host keeps the stage of a presenter, the gates on it are read by its ticks and by nothing else: an
emitter's in every tick, a sound's in every tick whose observer hears it. So the edges of those gates are the edges of
`Proofs.Channel.Edge`, and what fires on an edge fires when its gate opens.

- `stage_run`: what calls leave of the gates of a stage.
- `fires_on_opening`: an untimed gate moves and is open exactly when it opens; an emitter that does not spawn on every tick
  spawns exactly then; and a sound that plays once starts exactly then, unless it plays already.
-/
import Mathlib.Tactic
import Stagecraft.Proofs.Channel.Edge
import Stagecraft.Proofs.Presenter.Part
import Stagecraft.Proofs.Presenter.Run

namespace Stagecraft

/-! ## Passes of a run -/

/-- a call that leaves the stage standing -/
def Call.keepsStage : Call → Bool
  | .reload .. => false
  | .teardown => false
  | _ => true

/-- the answers of those ticks among some calls whose observer hears a gate -/
def passes (heard : Observer → Bool) (calls : List Call) : List (String → Option Float) :=
  calls.filterMap fun
    | .tick _ scope o => if heard o then some (scope 0) else none
    | _ => none

/-- the answers of all ticks among some calls -/
def ticks (calls : List Call) : List (String → Option Float) := passes (fun _ => true) calls

theorem passes_append (heard : Observer → Bool) (a b : List Call) :
    passes heard (a ++ b) = passes heard a ++ passes heard b := List.filterMap_append

theorem ticks_append (a b : List Call) : ticks (a ++ b) = ticks a ++ ticks b := passes_append _ a b

/-- one more tick is one more pass -/
theorem ticks_snoc (calls : List Call) (n : Nat) (scope : Scope) (o : Observer) :
    ticks (calls ++ [.tick n scope o]) = ticks calls ++ [scope 0] := ticks_append calls _

/-- a gate heard in every tick is read in every tick -/
theorem passes_of_heard (heard : Observer → Bool) (calls : List Call)
    (h : ∀ n scope o, .tick n scope o ∈ calls → heard o) : passes heard calls = ticks calls := by
  refine List.filterMap_congr fun c hc => ?_
  cases c with
  | tick n scope o => simp [h n scope o hc]
  | _ => rfl

/-- whether an observer hears a sound -/
def Sound.heardBy (s : Sound) (o : Observer) : Bool := o.hears s.interior s.exterior

/-- gates after the passes in which each of them is read -/
def afterPasses {δ : Type} (reads : δ → List (String → Option Float)) (gates : List (δ × Channel)) :
    List (δ × Channel) :=
  gates.map fun g => (g.1, g.2.afterGates (reads g.1))

theorem afterPasses_nil {δ : Type} (gates : List (δ × Channel)) : afterPasses (fun _ => []) gates = gates := by
  simp [afterPasses, Channel.afterGates]

theorem afterPasses_append {δ : Type} (a b : δ → List (String → Option Float)) (gates : List (δ × Channel)) :
    afterPasses (fun d => a d ++ b d) gates = afterPasses b (afterPasses a gates) := by
  simp [afterPasses, Channel.afterGates_append]

/-- the gates of a stage after some calls, as they follow from those of the stage before -/
structure Stage.Leaves (calls : List Call) (first now : Stage) : Prop where
  emitters : now.emitters.map LiveEmitter.gated =
    afterPasses (fun _ => ticks calls) (first.emitters.map LiveEmitter.gated)
  sounds : now.sounds.map LiveSound.gated =
    afterPasses (fun s => passes s.heardBy calls) (first.sounds.map LiveSound.gated)

namespace Stage.Leaves

theorem of_same {c : Call} (hc : ∀ heard, passes heard [c] = []) (stage : Stage) : Leaves [c] stage stage := by
  constructor <;> simp only [ticks, hc, afterPasses_nil]

theorem trans {a b : List Call} {first mid now : Stage} (h1 : Leaves a first mid) (h2 : Leaves b mid now) :
    Leaves (a ++ b) first now := by
  constructor
  · rw [h2.emitters, h1.emitters, ← afterPasses_append]
    simp only [ticks, passes_append]
  · rw [h2.sounds, h1.sounds, ← afterPasses_append]
    simp only [passes_append]

end Stage.Leaves

namespace Presenter

theorem stage_tick (p : Presenter) (first : Stage) (hp : p.stage = some first) (n : Nat) (scope : Scope) (o : Observer) :
    ∃ now, (p.tick n scope o).state.stage = some now ∧ Stage.Leaves [.tick n scope o] first now := by
  simp only [tick, hp]
  refine ⟨_, rfl, (LiveEmitter.gates_tick _ p.entity n 0 first.emitters).trans ?_,
    (LiveSound.gates_tickAll (p.hearing scope o) 0 p.playing first.sounds).trans ?_⟩
  · rw [afterPasses, List.map_map]
    rfl
  · rw [afterPasses, List.map_map]
    refine List.map_congr_left fun l _ => ?_
    -- a sound that is not heard is not asked, so its gate makes no pass
    cases hh : o.hears l.sound.interior l.sound.exterior <;>
      simp [LiveSound.heardGate, LiveSound.gated, hearing, passes, Sound.heardBy, hh, Channel.afterGates]

theorem stage_call (p : Presenter) (first : Stage) (hp : p.stage = some first) (c : Call) (hc : c.keepsStage) :
    ∃ now, (p.call c).state.stage = some now ∧ Stage.Leaves [c] first now := by
  cases c with
  | activate d t => exact ⟨first, by simp only [call, activate, hp], .of_same (fun _ => rfl) first⟩
  | reload d t => exact absurd hc Bool.false_ne_true
  | teardown => exact absurd hc Bool.false_ne_true
  | tick n scope o => exact p.stage_tick first hp n scope o
  | frame q scope => exact ⟨first, by simp only [call, frame, hp], .of_same (fun _ => rfl) first⟩
  | soundFinished sound => exact ⟨first, hp, .of_same (fun _ => rfl) first⟩

/-- **What a run leaves.** Calls that keep the stage move the gates on it by the ticks among them, and those of sounds by
the ticks in which they are heard. -/
theorem stage_run (p : Presenter) (first : Stage) (hp : p.stage = some first) (calls : List Call)
    (hc : ∀ c ∈ calls, c.keepsStage) : ∃ now, (p.run calls).state.stage = some now ∧ Stage.Leaves calls first now := by
  induction calls generalizing p first with
  | nil => exact ⟨first, hp, (afterPasses_nil _).symm, (afterPasses_nil _).symm⟩
  | cons c calls ih =>
    obtain ⟨mid, hmid, h1⟩ := p.stage_call first hp c (hc c List.mem_cons_self)
    obtain ⟨now, hnow, h2⟩ := ih (p.call c).state mid hmid fun c' hc' => hc c' (List.mem_cons_of_mem _ hc')
    exact ⟨now, hnow, h1.trans h2⟩

/-- the gates of the emitters of a stage just set up, after some calls -/
theorem emitters_run (p : Presenter) (d : Presentation) (t : Nat)
    (hp : p.stage = some (Stage.build p.settings.curve d t)) (calls : List Call) (hc : ∀ c ∈ calls, c.keepsStage) :
    (p.run calls).state.emitters.map LiveEmitter.gated =
      d.emitters.map fun e => (e, (Channel.ofAnimations p.settings.curve e.active).afterGates (ticks calls)) := by
  obtain ⟨now, hnow, hleaves⟩ := p.stage_run _ hp calls hc
  simpa [emitters, hnow, afterPasses, LiveEmitter.gated, Stage.build, Stage.liveEmitter, Function.comp_def] using hleaves.emitters

/-- one of those emitters -/
theorem emitter_run (p : Presenter) (d : Presentation) (t : Nat)
    (hp : p.stage = some (Stage.build p.settings.curve d t)) (calls : List Call) (hc : ∀ c ∈ calls, c.keepsStage) {k : Nat}
    {e : Emitter} (he : d.emitters[k]? = some e) :
    ∃ l, (p.run calls).state.emitters[k]? = some l ∧ l.emitter = e ∧
      l.active = (Channel.ofAnimations p.settings.curve e.active).afterGates (ticks calls) := by
  have hview := congrArg (·[k]?) (p.emitters_run d t hp calls hc)
  simp only [List.getElem?_map, he, Option.map_some] at hview
  obtain ⟨l, hl, hgated⟩ := Option.map_eq_some_iff.1 hview
  obtain ⟨hemitter, hactive⟩ := Prod.mk.inj hgated
  exact ⟨l, hl, hemitter, hactive⟩

/-- the gates of its sounds -/
theorem sounds_run (p : Presenter) (d : Presentation) (t : Nat)
    (hp : p.stage = some (Stage.build p.settings.curve d t)) (calls : List Call) (hc : ∀ c ∈ calls, c.keepsStage) :
    (p.run calls).state.sounds.map LiveSound.gated =
      d.sounds.map fun s =>
        (s, (Channel.ofAnimations p.settings.curve s.active).afterGates (passes s.heardBy calls)) := by
  obtain ⟨now, hnow, hleaves⟩ := p.stage_run _ hp calls hc
  simpa [sounds, hnow, afterPasses, LiveSound.gated, Stage.build, Stage.liveSound, Function.comp_def] using hleaves.sounds

end Presenter

/-! ## What fires on an edge -/

/-- an emitter that does not spawn on every tick spawns if its gate is open and moved -/
theorem LiveEmitter.tick_once (s : Sampling) (entity : EntityId) (n index : Nat) (l : LiveEmitter)
    (h : l.emitter.everyTick = false) :
    (l.tick s entity n index).output =
      if (l.active.gate s).result.isOpen && (l.active.gate s).result.moved then
        [⟨entity, .ofIndex index, l.emitter.spawnCount⟩] else [] := by
  unfold tick spawns
  simp only [h, Bool.false_and, Bool.or_false]
  split_ifs <;> rfl

/-- whether a cue starts a sound -/
def Cue.isStart : Cue → Bool
  | .start .. => true
  | _ => false

/-- a heard sound that plays once starts if its gate is open and moved and it does not play already -/
theorem LiveSound.tick_once (h : Hearing) (id : SoundId) (playing : List Voice) (l : LiveSound)
    (hlooping : l.sound.looping = false) (hforced : l.sound.forced = false) (hheard : l.sound.heardBy h.observer) :
    (l.tick h id playing).output.filter Cue.isStart =
      if ((l.active.gate h.sampling).result.isOpen && (l.active.gate h.sampling).result.moved) &&
          !Voices.has playing id then
        [.start h.entity id l.sound.name false] else [] := by
  have hgate : l.heardGate h = l.active.gate h.sampling := if_pos hheard
  have hstart : (start h id l.sound playing).2 =
      if !Voices.has playing id then [.start h.entity id l.sound.name false] else [] := by
    simp only [start, hforced, hlooping]
    cases Voices.has playing id <;> rfl
  have hsilence : (silence h id l.sound playing).2 = [] := by simp [silence, hlooping]
  unfold tick
  simp only [hgate, plays, hlooping, hforced, Bool.false_or]
  cases hfires : (l.active.gate h.sampling).result.isOpen && (l.active.gate h.sampling).result.moved with
  | true =>
    simp only [↓reduceIte, hstart, Bool.true_and]
    cases Voices.has playing id <;> rfl
  | false => simp [hsilence]

/-! ## Main result -/

namespace Presenter

/-- the share in a tick of an emitter that does not spawn on every tick: it spawns if its gate fires -/
theorem spawnsOf_fires (p : Presenter) (d : Presentation) (t : Nat)
    (hp : p.stage = some (Stage.build p.settings.curve d t)) (calls : List Call) (hc : ∀ c ∈ calls, c.keepsStage)
    (n : Nat) (scope : Scope) (o : Observer) (k : Nat) (e : Emitter) (he : d.emitters[k]? = some e)
    (honce : e.everyTick = false) :
    (p.run calls).state.spawnsOf n scope k =
      if firesAt ((Channel.ofAnimations p.settings.curve e.active).gates (ticks (calls ++ [.tick n scope o])))
          (ticks calls).length then
        [⟨p.entity, .ofIndex k, e.spawnCount⟩] else [] := by
  obtain ⟨l, hl, rfl, hactive⟩ := p.emitter_run d t hp calls hc he
  rw [ticks_snoc, Channel.firesAt_last, ← hactive, spawnsOf_emitter _ n scope hl, l.tick_once _ _ _ _ honce, run_entity]

/-- the starts in a tick of a sound that plays once: it starts if its gate fires and it does not play already -/
theorem starts_fires (p : Presenter) (d : Presentation) (t : Nat)
    (hp : p.stage = some (Stage.build p.settings.curve d t)) (calls : List Call) (hc : ∀ c ∈ calls, c.keepsStage)
    (n : Nat) (scope : Scope) (o : Observer) (k : Nat) (s : Sound) (hs : d.sounds[k]? = some s)
    (hlooping : s.looping = false) (hforced : s.forced = false)
    (hheard : ∀ m view listener, .tick m view listener ∈ calls ++ [.tick n scope o] → s.heardBy listener) :
    ((p.run calls).state.cuesOf scope o k).filter Cue.isStart =
      if firesAt ((Channel.ofAnimations p.settings.curve s.active).gates (ticks (calls ++ [.tick n scope o])))
            (ticks calls).length && !Voices.has ((p.run calls).state.voicesBefore scope o k) (.ofIndex k) then
        [.start p.entity (.ofIndex k) s.name false] else [] := by
  have hpasses : passes s.heardBy calls = ticks calls :=
    passes_of_heard _ _ fun m view listener hm => hheard m view listener (List.mem_append_left _ hm)
  have hnow : s.heardBy o := hheard n scope o (List.mem_append_right _ (List.mem_singleton_self _))
  have hview := congrArg (·[k]?) (p.sounds_run d t hp calls hc)
  simp only [List.getElem?_map, hs, Option.map_some, hpasses] at hview
  obtain ⟨l, hl, hls⟩ := Option.map_eq_some_iff.1 hview
  obtain ⟨rfl, hactive⟩ := Prod.mk.inj hls
  rw [ticks_snoc, Channel.firesAt_last, ← hactive, cuesOf_sound _ scope o hl]
  rw [l.tick_once ((p.run calls).state.hearing scope o) _ _ hlooping hforced hnow]
  simp only [hearing, run_entity]

theorem spawnsOf_once (p : Presenter) (d : Presentation) (t : Nat)
    (hp : p.stage = some (Stage.build p.settings.curve d t)) (calls : List Call) (hc : ∀ c ∈ calls, c.keepsStage)
    (n : Nat) (scope : Scope) (o : Observer) (k : Nat) (e : Emitter) (he : d.emitters[k]? = some e)
    (honce : e.everyTick = false) (hplain : PlainGates e.active)
    (ha : (Channel.ofAnimations p.settings.curve e.active).Answered (ticks (calls ++ [.tick n scope o]))) :
    (p.run calls).state.spawnsOf n scope k =
      if opensAt ((Channel.ofAnimations p.settings.curve e.active).gates (ticks (calls ++ [.tick n scope o])))
          (ticks calls).length then
        [⟨p.entity, .ofIndex k, e.spawnCount⟩] else [] := by
  rw [p.spawnsOf_fires d t hp calls hc n scope o k e he honce, Channel.firesAt_eq_opensAt _ _ hplain _ ha]

theorem starts_once (p : Presenter) (d : Presentation) (t : Nat)
    (hp : p.stage = some (Stage.build p.settings.curve d t)) (calls : List Call) (hc : ∀ c ∈ calls, c.keepsStage)
    (n : Nat) (scope : Scope) (o : Observer) (k : Nat) (s : Sound) (hs : d.sounds[k]? = some s)
    (hlooping : s.looping = false) (hforced : s.forced = false) (hplain : PlainGates s.active)
    (hheard : ∀ m view listener, .tick m view listener ∈ calls ++ [.tick n scope o] → s.heardBy listener)
    (ha : (Channel.ofAnimations p.settings.curve s.active).Answered (ticks (calls ++ [.tick n scope o]))) :
    ((p.run calls).state.cuesOf scope o k).filter Cue.isStart =
      if opensAt ((Channel.ofAnimations p.settings.curve s.active).gates (ticks (calls ++ [.tick n scope o])))
            (ticks calls).length && !Voices.has ((p.run calls).state.voicesBefore scope o k) (.ofIndex k) then
        [.start p.entity (.ofIndex k) s.name false] else [] := by
  rw [p.starts_fires d t hp calls hc n scope o k s hs hlooping hforced hheard,
    Channel.firesAt_eq_opensAt _ _ hplain _ ha]

/-- **Effects fire on openings.** Over new clocks of plain gates, with an answer to every name asked for, a gate is open and
moved in exactly the passes in which it opens. So from a stage just set up, in every tick after any calls that keep it: an
emitter that does not spawn on every tick spawns if and only if its gate opens in this tick, and a sound that plays once and
has been heard in every tick starts if and only if its gate opens in this tick and it has no voice by its turn, which is to
say, before the tick. -/
theorem fires_on_opening :
    (∀ (curve : Curve) (as : List (Animation Float)), PlainGates as →
      ∀ lookups, (Channel.ofAnimations curve as).Answered lookups →
      ∀ i e, ((Channel.ofAnimations curve as).gates lookups)[i]? = some e →
        (e.result.isOpen && e.result.moved) = opensAt ((Channel.ofAnimations curve as).gates lookups) i) ∧
    ∀ (p : Presenter) (d : Presentation) (t : Nat), p.stage = some (Stage.build p.settings.curve d t) →
      ∀ calls, (∀ c ∈ calls, c.keepsStage) → ∀ (n : Nat) (scope : Scope) (o : Observer),
        let now := (p.run calls).state
        let asked := ticks (calls ++ [.tick n scope o])
        let opens := fun as => opensAt ((Channel.ofAnimations p.settings.curve as).gates asked) (ticks calls).length
        (now.tick n scope o).output.spawns = (List.range d.emitters.length).flatMap (now.spawnsOf n scope) ∧
        (now.tick n scope o).output.audio = (List.range d.sounds.length).flatMap (now.cuesOf scope o) ∧
        (∀ k e, d.emitters[k]? = some e → e.everyTick = false → PlainGates e.active →
          (Channel.ofAnimations p.settings.curve e.active).Answered asked →
          now.spawnsOf n scope k = if opens e.active then [⟨p.entity, .ofIndex k, e.spawnCount⟩] else []) ∧
        (∀ k s, d.sounds[k]? = some s → s.looping = false → s.forced = false → PlainGates s.active →
          (∀ m view listener, .tick m view listener ∈ calls ++ [.tick n scope o] → s.heardBy listener) →
          (Channel.ofAnimations p.settings.curve s.active).Answered asked →
          (now.cuesOf scope o k).filter Cue.isStart =
            if opens s.active && !Voices.has (now.voicesBefore scope o k) (.ofIndex k) then
              [.start p.entity (.ofIndex k) s.name false] else []) ∧
        ∀ k < 2 ^ 32, Voices.has (now.voicesBefore scope o k) (.ofIndex k) = Voices.has now.playing (.ofIndex k) := by
  refine ⟨Channel.gates_untimed, fun p d t hp calls hc n scope o => ⟨?_, ?_, ?_, ?_, ?_⟩⟩
  · have hlength := congrArg List.length (p.emitters_run d t hp calls hc)
    rw [List.length_map, List.length_map] at hlength
    rw [← hlength]
    exact tick_spawns _ n scope o
  · have hlength := congrArg List.length (p.sounds_run d t hp calls hc)
    rw [List.length_map, List.length_map] at hlength
    rw [← hlength]
    exact tick_audio _ n scope o
  · exact p.spawnsOf_once d t hp calls hc n scope o
  · exact p.starts_once d t hp calls hc n scope o
  · exact has_voicesBefore _ scope o

/-- a gate that is open while a door is shut and there is power -/
def shutAndPowered : List (Animation Float) :=
  [{ Animation.plain .visibility "shut" with clampMin := 1, clampMax := 1 },
    { Animation.plain .visibility "power" with clampMin := 1, clampMax := 1 }]

/-- a whistle and its steam -/
def whistle : Presentation :=
  ⟨[], [⟨"whistle", false, false, false, false, shutAndPowered, [], []⟩], [⟨"steam", 3, false, shutAndPowered⟩], [], []⟩

/-- shut for two ticks and open for one; when the door shuts again, the whistle starts and the steam spawns, though the clock
of the power has been engaged all along -/
theorem fires_on_opening_whistle :
    let shut := (Table.ofList [("shut", 1), ("power", 1)]).scope
    let ajar := (Table.ofList [("shut", 0)]).scope
    let p := ((new ⟨7⟩ {}).activate whistle 0).state
    let calls := [.tick 1 shut {}, .frame 0.5 ajar, .tick 2 shut {}, .soundFinished ⟨0⟩, .tick 3 ajar {}]
    let now := (p.run calls).state
    let asked := ticks (calls ++ [.tick 4 shut {}])
    let gate := Channel.ofAnimations p.settings.curve shutAndPowered
    p.stage = some (Stage.build p.settings.curve whistle 0) ∧ (∀ c ∈ calls, c.keepsStage) ∧
      PlainGates shutAndPowered ∧ gate.Answered asked ∧
      (∃ e, (gate.gates asked)[3]? = some e ∧ (e.result.isOpen && e.result.moved) = true) ∧
      now.spawnsOf 4 shut 0 = [⟨⟨7⟩, ⟨0⟩, 3⟩] ∧
      (now.cuesOf shut {} 0).filter Cue.isStart = [.start ⟨7⟩ ⟨0⟩ "whistle" false] ∧
      Voices.has (now.voicesBefore shut {} 0) ⟨0⟩ = Voices.has now.playing ⟨0⟩ := by
  intro shut ajar p calls now asked gate
  have hplain : PlainGates shutAndPowered := ⟨by decide, by decide +kernel⟩
  have hkeeps : ∀ c ∈ calls, c.keepsStage := by simp [calls, Call.keepsStage]
  have hans : gate.Answered asked := by decide +kernel
  obtain ⟨e, he⟩ : ∃ e, (gate.gates asked)[3]? = some e := Option.isSome_iff_exists.1 (by decide +kernel)
  obtain ⟨-, -, hspawns, hstarts, hvoices⟩ := fires_on_opening.2 p whistle 0 rfl calls hkeeps 4 shut {}
  refine ⟨rfl, hkeeps, hplain, hans, ⟨e, he, ?_⟩, ?_, ?_, hvoices 0 (by decide)⟩
  · refine (fires_on_opening.1 p.settings.curve _ hplain _ hans 3 e he).trans ?_
    decide +kernel
  · refine (hspawns 0 _ rfl rfl hplain hans).trans ?_
    decide +kernel
  · refine (hstarts 0 _ rfl rfl rfl hplain (fun _ _ listener _ => ?_) hans).trans ?_
    · cases h : listener.isInside <;> simp [Sound.heardBy, Observer.hears, h]
    · decide +kernel

end Presenter

end Stagecraft
