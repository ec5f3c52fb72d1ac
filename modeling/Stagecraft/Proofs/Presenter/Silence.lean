/-
Silencing looping sounds. A looping sound that must not play, because nobody hears it or its gate is closed, loses one voice
in the tick: its oldest. That silences it if it had no more than one voice, as every sound that is not forced does; a forced
sound that started over and over again outlives its gate by as many ticks as it has voices left.

- `tick_sound`: in the tick of a presenter, a sound takes its turn as if it were alone.
- `Reachable.atMostOnce`: no sound that is not forced ever plays twice.
- `silenced_loses_oldest`: what a tick does to a looping sound that must not play.
-/
import Mathlib.Tactic
import Stagecraft.Proofs.Presenter.Part
import Stagecraft.Proofs.Presenter.Run

namespace Stagecraft

/-! ## One sound among others -/

/-- the sound that a cue is about -/
def Cue.sound : Cue → SoundId
  | .start _ sound _ _ => sound
  | .stop _ sound _ => sound
  | .update _ sound _ _ => sound

namespace LiveSound

theorem sound_of_mem_tick (h : Hearing) (id : SoundId) (playing : List Voice) (l : LiveSound) :
    ∀ c ∈ (l.tick h id playing).output, c.sound = id := by
  unfold tick start silence
  simp only
  split_ifs
  · simp [Cue.sound]
  · simp [Cue.sound]
  · cases Voices.oldest? playing id <;> simp [Cue.sound]
  · simp

theorem cues_of_others (h : Hearing) (index : Nat) (playing : List Voice) (ls : List LiveSound) (other : SoundId)
    (hne : ∀ k < ls.length, SoundId.ofIndex (index + k) ≠ other) :
    (tickAll h index playing ls).output.filter (·.sound = other) = [] := by
  induction ls generalizing index playing with
  | nil => rfl
  | cons l ls ih =>
    have hfirst : (l.tick h (.ofIndex index) playing).output.filter (·.sound = other) = [] := by
      rw [List.filter_eq_nil_iff]
      intro c hc
      rw [sound_of_mem_tick h _ playing l c hc]
      simpa using hne 0 (Nat.succ_pos _)
    have hrest := ih (index + 1) (l.tick h (.ofIndex index) playing).state.2 (ofIndex_ne_later hne)
    simp only [tickAll, List.filter_append, hfirst, hrest, List.append_nil]

/-- the turn of the sound at a place, between those before it and those after it -/
theorem tickAll_turn (h : Hearing) (index : Nat) (playing : List Voice) (ls : List LiveSound) (k : Nat) (l : LiveSound)
    (hl : ls[k]? = some l) :
    let turn := l.tick h (.ofIndex (index + k)) (voicesAt h index playing ls k)
    let rest := tickAll h (index + k + 1) turn.state.2 (ls.drop (k + 1))
    (tickAll h index playing ls).state.2 = rest.state.2 ∧
      (tickAll h index playing ls).output =
        (tickAll h index playing (ls.take k)).output ++ turn.output ++ rest.output := by
  induction ls generalizing index playing k with
  | nil => simp at hl
  | cons first ls ih =>
    cases k with
    | zero =>
      obtain rfl : first = l := by simpa using hl
      exact ⟨rfl, rfl⟩
    | succ k =>
      have hrest := ih (index + 1) (first.tick h (.ofIndex index) playing).state.2 k (by simpa using hl)
      rw [show index + 1 + k = index + (k + 1) by omega] at hrest
      obtain ⟨hstate, houtput⟩ := hrest
      refine ⟨hstate, ?_⟩
      simp only [tickAll, List.take_succ_cons, List.drop_succ_cons, List.append_assoc] at houtput ⊢
      rw [houtput]
      rfl

/-- as long as ids are distinct, the sounds around a sound neither touch its voices nor speak of it -/
theorem tickAll_sound (h : Hearing) (playing : List Voice) (ls : List LiveSound) (hids : ls.length ≤ 2 ^ 32) (k : Nat)
    (l : LiveSound) (hl : ls[k]? = some l) :
    let turn := l.tick h (.ofIndex k) (voicesAt h 0 playing ls k)
    Voices.ofSound (tickAll h 0 playing ls).state.2 (.ofIndex k) = Voices.ofSound turn.state.2 (.ofIndex k) ∧
      (tickAll h 0 playing ls).output.filter (·.sound = .ofIndex k) = turn.output := by
  intro turn
  have hk : k < ls.length := (List.getElem?_eq_some_iff.1 hl).1
  have hbefore : ∀ i < (ls.take k).length, SoundId.ofIndex (0 + i) ≠ .ofIndex k := by
    intro i hi
    rw [Nat.zero_add]
    exact SoundId.ofIndex_ne (lt_of_lt_of_le hi (List.length_take_le k ls)) (by omega)
  have hafter : ∀ i < (ls.drop (k + 1)).length, SoundId.ofIndex (0 + k + 1 + i) ≠ .ofIndex k := by
    intro i hi
    rw [List.length_drop] at hi
    exact (SoundId.ofIndex_ne (by omega) (by omega)).symm
  obtain ⟨hstate, houtput⟩ := tickAll_turn h 0 playing ls k l hl
  rw [Nat.zero_add] at hstate houtput hafter
  have hmine : turn.output.filter (·.sound = .ofIndex k) = turn.output := by
    rw [List.filter_eq_self]
    intro c hc
    simpa using sound_of_mem_tick h _ _ l c hc
  constructor
  · rw [hstate]
    exact ofSound_tickAll h (k + 1) turn.state.2 _ _ hafter
  · rw [houtput, List.filter_append, List.filter_append, cues_of_others h 0 playing _ _ hbefore, hmine,
      cues_of_others h (k + 1) _ _ _ hafter, List.append_nil, List.nil_append]

end LiveSound

/-! ## The voices of one turn -/

namespace Voices

theorem oldest?_eq (playing : List Voice) (sound : SoundId) : oldest? playing sound = (ofSound playing sound).head? := by
  rw [oldest?, ofSound, List.head?_filter]

theorem ofSound_dropOldest (playing : List Voice) (sound : SoundId) :
    ofSound (dropOldest playing sound) sound = (ofSound playing sound).tail := by
  induction playing with
  | nil => rfl
  | cons v playing ih =>
    by_cases hv : v.sound = sound
    · simp [dropOldest, ofSound, hv]
    · simp only [ofSound] at ih ⊢
      rw [dropOldest_cons_of_ne hv, List.filter_cons_of_neg (by simpa using hv), List.filter_cons_of_neg (by simpa using hv), ih]

theorem length_ofSound_setLevels (playing : List Voice) (sound : SoundId) (volume pitch : Float32) :
    (ofSound (setLevels playing sound volume pitch) sound).length = (ofSound playing sound).length := by
  simp only [ofSound, setLevels, List.filter_map, List.length_map]
  congr 2
  funext v
  simp only [Function.comp_apply]
  split_ifs <;> rfl

end Voices

namespace LiveSound

/-- the gate of a sound is open only where it is heard -/
theorem isOpen_heardGate (h : Hearing) (l : LiveSound) :
    (l.heardGate h).result.isOpen =
      (h.observer.hears l.sound.interior l.sound.exterior && (l.active.gate h.sampling).result.isOpen) := by
  unfold heardGate
  split_ifs with hheard <;> simp [hheard]

/-- a looping sound that must not play loses its oldest voice, and says so -/
theorem tick_silenced (h : Hearing) (id : SoundId) (playing : List Voice) (l : LiveSound)
    (hlooping : l.sound.looping = true) (hclosed : (l.heardGate h).result.isOpen = false) :
    Voices.ofSound (l.tick h id playing).state.2 id = (Voices.ofSound playing id).tail ∧
      (l.tick h id playing).output =
        ((Voices.ofSound playing id).take 1).map fun v => .stop h.entity id v.name := by
  have hplays : plays l.sound (l.heardGate h).result = false := by simp [plays, hclosed]
  simp only [tick, hplays, Bool.false_eq_true, ↓reduceIte, silence, hlooping, Voices.oldest?_eq]
  cases hv : Voices.ofSound playing id with
  | nil => simp [hv]
  | cons v others => simp [Voices.ofSound_dropOldest, hv]

/-- a sound that is not forced starts only while it does not play -/
theorem tick_unforced (h : Hearing) (id : SoundId) (playing : List Voice) (l : LiveSound)
    (hforced : l.sound.forced = false) (hfew : (Voices.ofSound playing id).length ≤ 1) :
    (Voices.ofSound (l.tick h id playing).state.2 id).length ≤ 1 := by
  have hstart : (Voices.ofSound (start h id l.sound playing).1 id).length ≤ 1 := by
    unfold start
    simp only [hforced, Bool.not_false, Bool.true_and, Voices.has_eq]
    cases hv : Voices.ofSound playing id with
    | nil => simp [Voices.ofSound] at hv ⊢; simpa using hv
    | cons v others => simpa [hv] using hfew
  have hsilence : (Voices.ofSound (silence h id l.sound playing).1 id).length ≤ 1 := by
    unfold silence
    split_ifs
    · cases Voices.oldest? playing id with
      | none => exact hfew
      | some v =>
        simp only [Voices.ofSound_dropOldest, List.length_tail]
        omega
    · exact hfew
  unfold tick
  simp only
  split_ifs
  · simpa [Voices.length_ofSound_setLevels] using hstart
  · exact hsilence

end LiveSound

/-! ## A tick of a presenter -/

namespace Presenter

/-- in a tick, a sound takes its turn as if it were alone -/
theorem tick_sound (p : Presenter) (hids : p.sounds.length ≤ 2 ^ 32) (n : Nat) (scope : Scope) (o : Observer) (k : Nat)
    (l : LiveSound) (hl : p.sounds[k]? = some l) :
    let turn := l.tick (p.hearing scope o) (.ofIndex k) (p.voicesBefore scope o k)
    Voices.ofSound (p.tick n scope o).state.playing (.ofIndex k) = Voices.ofSound turn.state.2 (.ofIndex k) ∧
      (p.tick n scope o).output.audio.filter (·.sound = .ofIndex k) = turn.output := by
  rw [playing_tick, audio_tick]
  exact LiveSound.tickAll_sound (p.hearing scope o) p.playing p.sounds hids k l hl

/-- a tick keeps the sounds on stage, each at its place -/
theorem tick_keeps_sounds (p : Presenter) (n : Nat) (scope : Scope) (o : Observer) :
    (p.tick n scope o).state.sounds.map (·.sound) = p.sounds.map (·.sound) := by
  have hgates := congrArg (List.map Prod.fst) (LiveSound.gates_tickAll (p.hearing scope o) 0 p.playing p.sounds)
  rw [List.map_map, List.map_map] at hgates
  rw [sounds_tick]
  exact hgates

/-! ## No sound that is not forced plays twice -/

/-- every sound that is not forced has one voice at most; without a stage there is no voice at all -/
structure AtMostOnce (p : Presenter) : Prop where
  offStage : p.stage = none → p.playing = []
  onStage : p.sounds.length ≤ 2 ^ 32 → ∀ (k : Nat) (l : LiveSound), p.sounds[k]? = some l → l.sound.forced = false →
    (Voices.ofSound p.playing (.ofIndex k)).length ≤ 1

theorem atMostOnce_of_silent {p : Presenter} (h : p.playing = []) : AtMostOnce p := by
  refine ⟨fun _ => h, fun _ k l _ _ => ?_⟩
  simp [h, Voices.ofSound]

theorem AtMostOnce.tick {p : Presenter} (h : AtMostOnce p) (n : Nat) (scope : Scope) (o : Observer) :
    AtMostOnce (p.tick n scope o).state := by
  have hkeeps := p.tick_keeps_sounds n scope o
  refine ⟨fun hoff => ?_, fun hids k l hl hforced => ?_⟩
  · cases hp : p.stage with
    | none =>
      simp only [Presenter.tick, hp]
      exact h.offStage hp
    | some stage => simp [Presenter.tick, hp] at hoff
  · -- the sound at this place before the tick is the same sound
    have hlength := congrArg List.length hkeeps
    have hplace := congrArg (·[k]?) hkeeps
    simp only [List.length_map, List.getElem?_map, hl, Option.map_some] at hlength hplace
    obtain ⟨l', hl', hsame⟩ := Option.map_eq_some_iff.1 hplace.symm
    have hids' : p.sounds.length ≤ 2 ^ 32 := hlength ▸ hids
    have hk : k < p.sounds.length := (List.getElem?_eq_some_iff.1 hl').1
    rw [(p.tick_sound hids' n scope o k l' hl').1]
    apply LiveSound.tick_unforced
    · rw [hsame]
      exact hforced
    · rw [p.ofSound_voicesBefore scope o k (by omega)]
      exact h.onStage hids' k l' hl' (hsame ▸ hforced)

theorem AtMostOnce.soundFinished {p : Presenter} (h : AtMostOnce p) (sound : SoundId) :
    AtMostOnce (p.soundFinished sound).1 := by
  have hsub : (Voices.dropOldest p.playing sound).Sublist p.playing := List.eraseP_sublist
  refine ⟨fun hoff => ?_, fun hids k l hl hforced => ?_⟩
  · have hnone : p.playing = [] := h.offStage hoff
    rw [hnone] at hsub
    exact List.sublist_nil.1 (hnone ▸ hsub)
  · exact (hsub.filter _).length_le.trans (h.onStage hids k l hl hforced)

/-- every call keeps it -/
theorem AtMostOnce.call {p : Presenter} (h : AtMostOnce p) (c : Call) : AtMostOnce (p.call c).state := by
  cases c with
  | activate d t =>
    simp only [Presenter.call, activate]
    split
    · exact h
    · next hoff => exact atMostOnce_of_silent (h.offStage hoff)
  | reload d t => exact atMostOnce_of_silent rfl
  | teardown => exact atMostOnce_of_silent rfl
  | tick n scope o => exact h.tick n scope o
  | frame q scope =>
    simp only [Presenter.call, frame]
    split
    · exact h
    · exact ⟨h.offStage, h.onStage⟩
  | soundFinished sound => exact h.soundFinished sound

theorem AtMostOnce.run {p : Presenter} (h : AtMostOnce p) (calls : List Call) : AtMostOnce (p.run calls).state :=
  run_keeps h fun _ c _ hq => hq.call c

theorem Reachable.atMostOnce {entity : EntityId} {settings : Settings} {p : Presenter}
    (h : Reachable entity settings p) : AtMostOnce p := by
  obtain ⟨calls, rfl⟩ := h
  exact AtMostOnce.run (atMostOnce_of_silent rfl) calls

/-! ## Main result -/

/-- **A silenced looping sound loses its oldest voice.** In any state that calls lead to, with no more sounds on stage than
there are ids: when a looping sound must not play in a tick, because the observer does not hear it or its gate is closed,
the tick ends its oldest voice and no other, and gives one stop for it, if it had any. So the tick silences the sound, with
a stop for each of its voices, if and only if it had one voice at most; and it never has more unless it is forced. -/
theorem silenced_loses_oldest (entity : EntityId) (settings : Settings) (p : Presenter)
    (hp : Reachable entity settings p) (hids : p.sounds.length ≤ 2 ^ 32) (n : Nat) (scope : Scope) (o : Observer)
    (k : Nat) (l : LiveSound) (hl : p.sounds[k]? = some l) (hlooping : l.sound.looping = true)
    (hsilent : (o.hears l.sound.interior l.sound.exterior &&
      (l.active.gate ⟨.tick, scope 0⟩).result.isOpen) = false) :
    let t := p.tick n scope o
    let before := Voices.ofSound p.playing (.ofIndex k)
    let after := Voices.ofSound t.state.playing (.ofIndex k)
    let cues := t.output.audio.filter (·.sound = .ofIndex k)
    let stops := fun voices : List Voice => voices.map fun v => Cue.stop entity (.ofIndex k) v.name
    after = before.tail ∧ cues = stops (before.take 1) ∧
      (after = [] ∧ cues = stops before ↔ before.length ≤ 1) ∧ (l.sound.forced = false → before.length ≤ 1) := by
  intro t before after cues stops
  have hk : k < p.sounds.length := (List.getElem?_eq_some_iff.1 hl).1
  have hclosed : (l.heardGate (p.hearing scope o)).result.isOpen = false := by
    rw [l.isOpen_heardGate]
    exact hsilent
  obtain ⟨hvoices, hcues⟩ := p.tick_sound hids n scope o k l hl
  obtain ⟨htail, hstop⟩ := l.tick_silenced (p.hearing scope o) (.ofIndex k) (p.voicesBefore scope o k) hlooping hclosed
  rw [p.ofSound_voicesBefore scope o k (by omega)] at htail hstop
  have hafter : after = before.tail := hvoices.trans htail
  have hgiven : cues = stops (before.take 1) := by
    refine (hcues.trans hstop).trans ?_
    simp only [hearing, hp.entity_eq]
    rfl
  refine ⟨hafter, hgiven, ⟨?_, fun hfew => ?_⟩, hp.atMostOnce.onStage hids k l hl⟩
  · rintro ⟨hnone, -⟩
    rw [hafter] at hnone
    have := congrArg List.length hnone
    simp only [List.length_tail, List.length_nil] at this
    omega
  · rw [hafter, hgiven, List.take_of_length_le hfew]
    refine ⟨List.length_eq_zero_iff.1 ?_, rfl⟩
    rw [List.length_tail]
    omega

/-- open as long as the siren is switched on -/
def switch : Animation Float := { Animation.plain .visibility "on" with clampMin := 1, clampMax := 1 }

/-- a siren that is looping and forced -/
def siren : Presentation := ⟨[], [⟨"siren", true, true, false, false, [switch], [], []⟩], [], [], []⟩

/-- switched on for one tick, the siren falls silent when it is switched off -/
theorem silenced_loses_oldest_siren :
    let on := (Table.ofList [("on", 1)]).scope
    let off := (Table.ofList [("on", 0)]).scope
    let p := ((new ⟨7⟩ {}).run [.activate siren 0, .tick 1 on {}]).state
    Reachable ⟨7⟩ {} p ∧ (Voices.ofSound p.playing ⟨0⟩).length = 1 ∧
      Voices.ofSound (p.tick 2 off {}).state.playing ⟨0⟩ = [] := by
  intro on off p
  have hp : Reachable ⟨7⟩ {} p := ⟨[.activate siren 0, .tick 1 on {}], rfl⟩
  have hone : (Voices.ofSound p.playing ⟨0⟩).length = 1 := by decide +kernel
  let l : LiveSound := ⟨⟨"siren", true, true, false, false, [switch], [], []⟩,
    [⟨switch, .linear, ⟨.held, 1, 0, true, true⟩⟩], [], []⟩
  have hl : p.sounds[0]? = some l := by decide +kernel
  obtain ⟨-, -, hsilences, -⟩ := silenced_loses_oldest ⟨7⟩ {} p hp (by decide +kernel) 2 off {} 0 l hl rfl
    (by decide +kernel)
  exact ⟨hp, hone, (hsilences.2 hone.le).1⟩

/-- **It outlives its gate.** Switched on for two ticks, the siren has two voices; the tick in which it is switched off stops
one of them and leaves the other. -/
theorem siren_outlives_gate :
    let on := (Table.ofList [("on", 1)]).scope
    let off := (Table.ofList [("on", 0)]).scope
    let p := ((new ⟨7⟩ {}).run [.activate siren 0, .tick 1 on {}, .tick 2 on {}]).state
    Reachable ⟨7⟩ {} p ∧ p.sounds.all (fun l => l.sound.looping && !(l.active.gate ⟨.tick, off 0⟩).result.isOpen) = true ∧
      (Voices.ofSound p.playing ⟨0⟩).length = 2 ∧
      (p.tick 3 off {}).output.audio = [.stop ⟨7⟩ ⟨0⟩ "siren"] ∧
      (Voices.ofSound (p.tick 3 off {}).state.playing ⟨0⟩).length = 1 := by
  intro on off p
  exact ⟨⟨[.activate siren 0, .tick 1 on {}, .tick 2 on {}], rfl⟩, by decide +kernel, by decide +kernel,
    by decide +kernel, by decide +kernel⟩

end Presenter

end Stagecraft
