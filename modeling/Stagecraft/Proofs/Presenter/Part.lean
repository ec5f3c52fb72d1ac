/-
The parts of a tick. The cues and spawns of a tick are those of its sounds and emitters, one after the other by place; and
a sound takes its turn with the voices that the sounds before it left, which as to its own id are those before the tick.

- `tick_spawns`, `tick_audio`: the whole is its parts in order.
- `ofSound_voicesBefore`: as long as ids are distinct, no sound ends, starts or levels a voice of another.
-/
import Mathlib.Tactic
import Stagecraft.Presenter.Tick

namespace Stagecraft

/-! ## Parts in order -/

/-- an emitter and its gate -/
def LiveEmitter.gated (l : LiveEmitter) : Emitter × Channel := (l.emitter, l.active)

/-- a sound and its gate -/
def LiveSound.gated (l : LiveSound) : Sound × Channel := (l.sound, l.active)

/-- what the part at a place adds to a reading -/
def Reading.part {τ ω : Type} (read : Nat → τ → Reading τ ω) (index : Nat) (parts : List τ) (k : Nat) : List ω :=
  match parts[k]? with
  | some part => (read (index + k) part).output
  | none => []

theorem Reading.all_eq_parts {τ ω : Type} (read : Nat → τ → Reading τ ω) (index : Nat) (parts : List τ) :
    (Reading.all read index parts).output = (List.range parts.length).flatMap (part read index parts) := by
  induction parts generalizing index with
  | nil => rfl
  | cons first parts ih =>
    have hlater : ∀ k, part read index (first :: parts) (k + 1) = part read (index + 1) parts k := fun k => by
      simp only [part, List.getElem?_cons_succ, Nat.add_assoc, Nat.add_comm 1]
    simp only [Reading.all, ih, List.length_cons, List.range_succ_eq_map, List.flatMap_cons, List.flatMap_map, hlater]
    rfl

/-- the gate of every emitter after a tick -/
theorem LiveEmitter.gates_tick (s : Sampling) (entity : EntityId) (n index : Nat) (ls : List LiveEmitter) :
    (Reading.all (LiveEmitter.tick s entity n) index ls).state.map LiveEmitter.gated =
      ls.map fun l => (l.emitter, (l.active.gate s).channel) := by
  induction ls generalizing index with
  | nil => rfl
  | cons l ls ih =>
    have hfirst : (l.tick s entity n index).state.gated = (l.emitter, (l.active.gate s).channel) := by
      unfold LiveEmitter.tick
      simp only
      split_ifs <;> rfl
    simp only [Reading.all, List.map_cons, ih, hfirst]

/-! ## Voices of some sounds -/

namespace Voices

variable (looks : SoundId → Bool) {id : SoundId}

/-- the voices of those sounds that are looked at, oldest first -/
def seen (playing : List Voice) : List Voice := playing.filter fun v => looks v.sound

theorem dropOldest_cons_of_ne {v : Voice} (hv : v.sound ≠ id) (playing : List Voice) :
    dropOldest (v :: playing) id = v :: dropOldest playing id := by
  simp [dropOldest, hv]

/-- a sound that is not looked at may lose a voice unseen -/
theorem seen_dropOldest_of_unseen (hid : looks id = false) (playing : List Voice) :
    seen looks (dropOldest playing id) = seen looks playing := by
  induction playing with
  | nil => rfl
  | cons v playing ih =>
    by_cases hv : v.sound = id
    · simp [dropOldest, seen, hv, hid]
    · simp only [seen] at ih ⊢
      rw [dropOldest_cons_of_ne hv, List.filter_cons, List.filter_cons, ih]

/-- levels are set of what is seen -/
theorem seen_setLevels (playing : List Voice) (id : SoundId) (volume pitch : Float32) :
    seen looks (setLevels playing id volume pitch) = setLevels (seen looks playing) id volume pitch := by
  simp only [seen, setLevels, List.filter_map, Function.comp_def]
  congr 1
  refine List.filter_congr fun v _ => ?_
  split_ifs <;> rfl

/-- those of a sound that is not looked at change unseen -/
theorem seen_setLevels_of_unseen (hid : looks id = false) (playing : List Voice) (volume pitch : Float32) :
    seen looks (setLevels playing id volume pitch) = seen looks playing := by
  rw [seen_setLevels, setLevels]
  conv_rhs => rw [← List.map_id (seen looks playing)]
  refine List.map_congr_left fun v hv => ?_
  have hlooks : looks v.sound = true := (List.mem_filter.1 hv).2
  have hother : v.sound ≠ id := by
    rintro rfl
    rw [hid] at hlooks
    cases hlooks
  exact if_neg hother

/-- the voices of a sound, oldest first -/
def ofSound (playing : List Voice) (sound : SoundId) : List Voice := playing.filter (·.sound = sound)

theorem has_eq (playing : List Voice) (sound : SoundId) : has playing sound = !(ofSound playing sound).isEmpty := by
  rw [Bool.eq_iff_iff]
  simp [has, ofSound]

end Voices

/-! ## Sounds -/

namespace LiveSound

/-- the voices when the sound at a place takes its turn -/
def voicesAt (h : Hearing) (index : Nat) (playing : List Voice) (ls : List LiveSound) (k : Nat) : List Voice :=
  (tickAll h index playing (ls.take k)).state.2

/-- the cues of the sound at a place -/
def cuesAt (h : Hearing) (index : Nat) (playing : List Voice) (ls : List LiveSound) (k : Nat) : List Cue :=
  match ls[k]? with
  | some l => (l.tick h (.ofIndex (index + k)) (voicesAt h index playing ls k)).output
  | none => []

theorem tickAll_eq_cuesAt (h : Hearing) (index : Nat) (playing : List Voice) (ls : List LiveSound) :
    (tickAll h index playing ls).output = (List.range ls.length).flatMap (cuesAt h index playing ls) := by
  induction ls generalizing index playing with
  | nil => rfl
  | cons l ls ih =>
    have hlater : ∀ k, cuesAt h index playing (l :: ls) (k + 1) =
        cuesAt h (index + 1) (l.tick h (.ofIndex index) playing).state.2 ls k := fun k => by
      simp only [cuesAt, voicesAt, List.getElem?_cons_succ, List.take_succ_cons, tickAll, Nat.add_assoc, Nat.add_comm 1]
    simp only [tickAll, ih, List.length_cons, List.range_succ_eq_map, List.flatMap_cons, List.flatMap_map, hlater]
    rfl

/-- the gate of every sound after a tick -/
theorem gates_tickAll (h : Hearing) (index : Nat) (playing : List Voice) (ls : List LiveSound) :
    (tickAll h index playing ls).state.1.map gated =
      ls.map fun l => (l.sound, (l.heardGate h).channel) := by
  induction ls generalizing index playing with
  | nil => rfl
  | cons l ls ih =>
    have hfirst : ∀ id, (l.tick h id playing).state.1.gated = (l.sound, (l.heardGate h).channel) := by
      intro id
      unfold tick
      simp only
      split_ifs <;> rfl
    simp only [tickAll, List.map_cons, ih, hfirst]

/-! ## Voices of others -/

section Unseen

variable (looks : SoundId → Bool) (h : Hearing) {id : SoundId}

/-- a sound that takes its turn leaves the voices of the others alone -/
theorem seen_silence_of_unseen (hid : looks id = false) (s : Sound) (playing : List Voice) :
    Voices.seen looks (silence h id s playing).1 = Voices.seen looks playing := by
  unfold silence
  split_ifs
  · cases Voices.oldest? playing id with
    | none => rfl
    | some v => exact Voices.seen_dropOldest_of_unseen looks hid playing
  · rfl

theorem seen_start_of_unseen (hid : looks id = false) (s : Sound) (playing : List Voice) :
    Voices.seen looks (start h id s playing).1 = Voices.seen looks playing := by
  unfold start
  split_ifs
  · rfl
  · simp [Voices.seen, hid]

theorem seen_tick_of_unseen (hid : looks id = false) (playing : List Voice) (l : LiveSound) :
    Voices.seen looks (l.tick h id playing).state.2 = Voices.seen looks playing := by
  unfold tick
  simp only
  split_ifs
  · exact (Voices.seen_setLevels_of_unseen looks hid _ _ _).trans (seen_start_of_unseen looks h hid l.sound playing)
  · exact seen_silence_of_unseen looks h hid l.sound playing

end Unseen

theorem ofSound_tick (h : Hearing) (id other : SoundId) (hne : id ≠ other) (playing : List Voice) (l : LiveSound) :
    Voices.ofSound (l.tick h id playing).state.2 other = Voices.ofSound playing other :=
  seen_tick_of_unseen (fun sound => decide (sound = other)) h (decide_eq_false hne) playing l

/-- an id that no place from the first on has, no later place has -/
theorem ofIndex_ne_later {index length : Nat} {other : SoundId} (hne : ∀ k < length + 1, SoundId.ofIndex (index + k) ≠ other) :
    ∀ k < length, SoundId.ofIndex (index + 1 + k) ≠ other := by
  intro k hk
  rw [Nat.add_assoc, Nat.add_comm 1]
  exact hne (k + 1) (Nat.succ_lt_succ hk)

theorem ofSound_tickAll (h : Hearing) (index : Nat) (playing : List Voice) (ls : List LiveSound) (other : SoundId)
    (hne : ∀ k < ls.length, SoundId.ofIndex (index + k) ≠ other) :
    Voices.ofSound (tickAll h index playing ls).state.2 other = Voices.ofSound playing other := by
  induction ls generalizing index playing with
  | nil => rfl
  | cons l ls ih =>
    have hrest := ih (index + 1) (l.tick h (.ofIndex index) playing).state.2 (ofIndex_ne_later hne)
    exact hrest.trans (ofSound_tick h _ other (hne 0 (Nat.succ_pos _)) playing l)

end LiveSound

/-- as long as there are no more places than words, places are told apart by their words -/
theorem word_ne {i k : Nat} (hi : i < k) (hk : k < 2 ^ 32) : UInt32.ofNat i ≠ UInt32.ofNat k := by
  intro hword
  have hnat := congrArg UInt32.toNat hword
  rw [UInt32.toNat_ofNat', UInt32.toNat_ofNat', Nat.mod_eq_of_lt (hi.trans hk), Nat.mod_eq_of_lt hk] at hnat
  exact hi.ne hnat

theorem SoundId.ofIndex_ne {i k : Nat} (hi : i < k) (hk : k < 2 ^ 32) : SoundId.ofIndex i ≠ SoundId.ofIndex k := by
  intro h
  exact word_ne hi hk (congrArg SoundId.val h)

theorem ParticleId.ofIndex_ne {i k : Nat} (hi : i < k) (hk : k < 2 ^ 32) :
    ParticleId.ofIndex i ≠ ParticleId.ofIndex k := by
  intro h
  exact word_ne hi hk (congrArg ParticleId.val h)

/-! ## The parts of a presenter's tick -/

namespace Presenter

/-- what a presenter ticks its sounds with -/
def hearing (p : Presenter) (scope : Scope) (o : Observer) : Hearing :=
  ⟨⟨.tick, scope 0⟩, p.entity, o, p.settings.enclosedAttenuation⟩

/-- the emitters on stage -/
def emitters (p : Presenter) : List LiveEmitter := (p.stage.map (·.emitters)).getD []

/-- the sounds on stage -/
def sounds (p : Presenter) : List LiveSound := (p.stage.map (·.sounds)).getD []

/-- what the emitter at a place spawns in a tick -/
def spawnsOf (p : Presenter) (n : Nat) (scope : Scope) (k : Nat) : List Spawn :=
  Reading.part (LiveEmitter.tick ⟨.tick, scope 0⟩ p.entity n) 0 p.emitters k

/-- the voices in a tick when the sound at a place takes its turn -/
def voicesBefore (p : Presenter) (scope : Scope) (o : Observer) (k : Nat) : List Voice :=
  LiveSound.voicesAt (p.hearing scope o) 0 p.playing p.sounds k

/-- the cues of the sound at a place in a tick -/
def cuesOf (p : Presenter) (scope : Scope) (o : Observer) (k : Nat) : List Cue :=
  LiveSound.cuesAt (p.hearing scope o) 0 p.playing p.sounds k

/-- **Spawns.** A tick spawns what its emitters spawn, in order. -/
theorem tick_spawns (p : Presenter) (n : Nat) (scope : Scope) (o : Observer) :
    (p.tick n scope o).output.spawns = (List.range p.emitters.length).flatMap (p.spawnsOf n scope) := by
  cases hp : p.stage with
  | none => simp [tick, emitters, hp]
  | some stage =>
    have hspawns : (p.tick n scope o).output.spawns =
        (Reading.all (LiveEmitter.tick ⟨.tick, scope 0⟩ p.entity n) 0 p.emitters).output := by
      simp only [tick, emitters, hp, Option.map_some, Option.getD_some]
    exact hspawns.trans (Reading.all_eq_parts _ 0 p.emitters)

/-- the spawns of an emitter are those of its own tick -/
theorem spawnsOf_emitter (p : Presenter) (n : Nat) (scope : Scope) {k : Nat} {l : LiveEmitter} (hl : p.emitters[k]? = some l) :
    p.spawnsOf n scope k = (l.tick ⟨.tick, scope 0⟩ p.entity n k).output := by
  simp only [spawnsOf, Reading.part, hl, Nat.zero_add]

/-- the sounds that a tick leaves on stage -/
theorem sounds_tick (p : Presenter) (n : Nat) (scope : Scope) (o : Observer) :
    (p.tick n scope o).state.sounds = (LiveSound.tickAll (p.hearing scope o) 0 p.playing p.sounds).state.1 := by
  cases hp : p.stage with
  | none =>
    simp only [tick, sounds, hp]
    rfl
  | some stage => simp only [tick, sounds, hearing, hp, Option.map_some, Option.getD_some]

/-- and the voices -/
theorem playing_tick (p : Presenter) (n : Nat) (scope : Scope) (o : Observer) :
    (p.tick n scope o).state.playing = (LiveSound.tickAll (p.hearing scope o) 0 p.playing p.sounds).state.2 := by
  cases hp : p.stage with
  | none =>
    simp only [tick, sounds, hp]
    rfl
  | some stage => simp only [tick, sounds, hearing, hp, Option.map_some, Option.getD_some]

theorem audio_tick (p : Presenter) (n : Nat) (scope : Scope) (o : Observer) :
    (p.tick n scope o).output.audio = (LiveSound.tickAll (p.hearing scope o) 0 p.playing p.sounds).output := by
  cases hp : p.stage with
  | none =>
    simp only [tick, sounds, hp]
    rfl
  | some stage => simp only [tick, sounds, hearing, hp, Option.map_some, Option.getD_some]

/-- **Cues.** A tick gives the cues of its sounds, in order. -/
theorem tick_audio (p : Presenter) (n : Nat) (scope : Scope) (o : Observer) :
    (p.tick n scope o).output.audio = (List.range p.sounds.length).flatMap (p.cuesOf scope o) :=
  (p.audio_tick n scope o).trans (LiveSound.tickAll_eq_cuesAt _ 0 p.playing p.sounds)

/-- the cues of a sound are those of its turn -/
theorem cuesOf_sound (p : Presenter) (scope : Scope) (o : Observer) {k : Nat} {l : LiveSound} (hl : p.sounds[k]? = some l) :
    p.cuesOf scope o k = (l.tick (p.hearing scope o) (.ofIndex k) (p.voicesBefore scope o k)).output := by
  simp only [cuesOf, voicesBefore, LiveSound.cuesAt, hl, Nat.zero_add]

/-- a frame leaves the sounds alone -/
theorem sounds_frame (p : Presenter) (q : Float32) (scope : Scope) : (p.frame q scope).state.sounds = p.sounds := by
  cases hp : p.stage with
  | none => simp only [frame, hp]
  | some stage => simp only [frame, sounds, hp]

/-- a sound finds its own voices as they were before the tick -/
theorem ofSound_voicesBefore (p : Presenter) (scope : Scope) (o : Observer) (k : Nat) (hk : k < 2 ^ 32) :
    Voices.ofSound (p.voicesBefore scope o k) (.ofIndex k) = Voices.ofSound p.playing (.ofIndex k) := by
  apply LiveSound.ofSound_tickAll
  intro i hi
  rw [Nat.zero_add]
  exact SoundId.ofIndex_ne (lt_of_lt_of_le hi (List.length_take_le k p.sounds)) hk

theorem has_voicesBefore (p : Presenter) (scope : Scope) (o : Observer) (k : Nat) (hk : k < 2 ^ 32) :
    Voices.has (p.voicesBefore scope o k) (.ofIndex k) = Voices.has p.playing (.ofIndex k) := by
  rw [Voices.has_eq, Voices.has_eq, p.ofSound_voicesBefore scope o k hk]

end Presenter

end Stagecraft
