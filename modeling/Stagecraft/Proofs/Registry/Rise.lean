/-
Sounds that a flag sets off. A sound that plays once behind a switch starts in a tick if its flag is on there and was not on in
the tick before, or if its definition came since; it does not start again while an instance plays.

- `Solo.Armed.step`, `Solo.armed_run`: the clock of the switch holds whether the flag was on in the last tick, whatever happens
  to the entity.
- `Life.starts_on_rise`: in which ticks of an entity the sound starts.
-/
import Stagecraft.Proofs.Channel.Switch
import Stagecraft.Proofs.Presenter.Edge
import Stagecraft.Proofs.Presenter.Silence
import Stagecraft.Proofs.Registry.Deed
import Stagecraft.Proofs.Variable.OneShot

namespace Stagecraft

/-! ## Ticks with a flag on -/

def Deed.isTick : Deed → Bool
  | .tick => true
  | _ => false

def Deed.isHost : Deed → Bool
  | .host _ => true
  | _ => false

/-- it was so in the last tick, and no definition came since -/
def AtLastTick (so : List Deed → Prop) : List Deed → Prop :=
  Since (fun before a => a.isTick = true ∧ so before) fun a => a.isHost

section AtLastTick

variable {so : List Deed → Prop} (deeds : List Deed)

theorem atLastTick_tick : AtLastTick so (deeds ++ [.tick]) ↔ so deeds := by
  simp [AtLastTick, since_snoc, Deed.isTick, Deed.isHost]

/-- the host does nothing to it -/
theorem atLastTick_host (changes : List Flags.Change) :
    AtLastTick so (deeds ++ changes.map .host) ↔ AtLastTick so deeds := by
  apply since_append
  intro b hb
  obtain ⟨c, -, rfl⟩ := List.mem_map.1 hb
  exact ⟨fun _ hbegins => Bool.false_ne_true hbegins.1, rfl⟩

/-- and a definition ends it -/
theorem not_atLastTick_install (d : Presentation) : ¬AtLastTick so (deeds ++ [.install d]) := by
  simp [AtLastTick, since_snoc, Deed.isTick, Deed.isHost]

end AtLastTick

/-- the flag is on after what was done to the flags -/
def Lit (name : String) (deeds : List Deed) : Prop := (({} : Flags).run (deeds.map Deed.change)).isSet name = true

/-- what a flag says in a tick, if it was on or not in the tick before -/
theorem saysOf_value? (name : String) (deeds : List Deed) (engaged : Bool)
    (hengaged : engaged = true ↔ AtLastTick (Lit name) deeds) :
    let flags := ({} : Flags).run (deeds.map Deed.change)
    SaysOf (flags.isSet name) engaged (flags.value? name) := by
  intro flags
  unfold Flags.value?
  split_ifs with hset hdeclared
  · simp [SaysOf, hset]
  · simp [SaysOf, hset]
  · refine ⟨by simpa using hset, ?_⟩
    -- a flag that was on in the last tick is declared
    rw [← Bool.not_eq_true, hengaged]
    rintro ⟨before, a, after, rfl, ⟨-, hlit⟩, -⟩
    apply hdeclared
    have hthere := Flags.isDeclared_of_isSet hlit
    simp only [flags, List.map_append, Flags.run_append]
    exact Flags.isDeclared_run _ name _ hthere

/-! ## The clock of a switch -/

/-- a concern that leaves the definition on stage -/
def Concern.keepsStage : Concern → Bool
  | .reload .. => false
  | .leave => false
  | _ => true

/-- in a tick, the observer hears the sound, and neither the entity nor the world says anything of the flag -/
def Concern.Shows (sound : Sound) (name : String) : Concern → Prop
  | .tick _ own around o =>
    sound.heardBy o = true ∧ (own.bind fun answers => answers 0 name) = none ∧ around.scope 0 name = none
  | _ => True

namespace Solo

/-- the definition is on stage, and the gate of the sound at a place is the one track of the switch, whose clock is engaged or
not -/
structure Armed (s : Solo) (d : Presentation) (k : Nat) (a : Animation Float) (engaged : Prop) : Prop where
  sounds : s.presenter.sounds.map (·.sound) = d.sounds
  gate : ∃ (l : LiveSound) (t : Track), s.presenter.sounds[k]? = some l ∧ l.active = [t] ∧ t.animation = a ∧
    (t.clock.engaged = true ↔ engaged)

variable {s : Solo} {d : Presentation} {k : Nat} {a : Animation Float} {sound : Sound} {deeds : List Deed}

theorem armed_of_build {curve : Curve} (hsounds : s.presenter.sounds = d.sounds.map (Stage.liveSound curve))
    (hsound : d.sounds[k]? = some sound) (hactive : sound.active = [a]) {engaged : Prop} (hnot : ¬engaged) :
    s.Armed d k a engaged := by
  refine ⟨?_, Stage.liveSound curve sound, { animation := a, curve }, ?_, ?_, rfl, ?_⟩
  · rw [hsounds, List.map_map]
    exact List.map_id _
  · rw [hsounds, List.getElem?_map, hsound]
    rfl
  · rw [Stage.liveSound, hactive]
    rfl
  · exact iff_of_false Bool.false_ne_true hnot

/-- the sound at the place is the one of the definition -/
theorem Armed.sound_eq {engaged : Prop} (h : s.Armed d k a engaged) (hsound : d.sounds[k]? = some sound) {l : LiveSound}
    (hl : s.presenter.sounds[k]? = some l) : l.sound = sound := by
  have hplace := congrArg (·[k]?) h.sounds
  simpa [hl, hsound] using hplace

/-- the gate in a tick in which nothing but the flags says anything of the flag -/
theorem Armed.gate_tick (h : s.Armed d k a (AtLastTick (Lit a.source) deeds))
    (hflags : s.flags = ({} : Flags).run (deeds.map Deed.change)) (ha : a.Switch) (own : Option Scope) (around : World)
    (hown : (own.bind fun answers => answers 0 a.source) = none) (hworld : around.scope 0 a.source = none) :
    ∃ (l : LiveSound) (t : Track) (clock : Clock), s.presenter.sounds[k]? = some l ∧ t.animation = a ∧
      (t.clock.engaged = true ↔ AtLastTick (Lit a.source) deeds) ∧ (clock.engaged = true ↔ Lit a.source deeds) ∧
      l.active.gate ⟨.tick, Scope.layered own around s.flags 0⟩ =
        ⟨⟨s.flags.isSet a.source, false, s.flags.isSet a.source != t.clock.engaged⟩, [{ t with clock }], [a.source]⟩ := by
  obtain ⟨l, t, hl, hactive, rfl, hengaged⟩ := h.gate
  have htold : SaysOf (s.flags.isSet t.animation.source) t.clock.engaged
      (Scope.layered own around s.flags 0 t.animation.source) := by
    have hlayer : Scope.layered own around s.flags 0 t.animation.source = s.flags.value? t.animation.source := by
      simp [Scope.layered, hown, hworld]
    rw [hlayer, hflags]
    exact saysOf_value? _ deeds _ hengaged
  obtain ⟨clock, hclock, hgate⟩ := Channel.gate_switch t ha _ _ htold
  refine ⟨l, t, clock, hl, rfl, hengaged, ?_, by rw [hactive, hgate]⟩
  rw [hclock, hflags, Lit]

/-- **One concern.** The clock holds whether the flag was on in the last tick, and so does it after whatever leaves the
definition on stage. -/
theorem Armed.step (h : s.Armed d k a (AtLastTick (Lit a.source) deeds))
    (hflags : s.flags = ({} : Flags).run (deeds.map Deed.change)) (hsound : d.sounds[k]? = some sound) (ha : a.Switch)
    {c : Concern} {more : List Deed} (hdoes : c.Does more) (hkeeps : c.keepsStage = true)
    (hshows : c.Shows sound a.source) : (s.step c).state.Armed d k a (AtLastTick (Lit a.source) (deeds ++ more)) := by
  cases hdoes with
  | reload d' n => cases hkeeps
  | leave => cases hkeeps
  | soundFinished id =>
    rw [List.append_nil]
    exact ⟨h.sounds, h.gate⟩
  | frame q own around =>
    rw [List.append_nil]
    have hsame := s.presenter.sounds_frame q (Scope.layered own around s.flags)
    exact ⟨(congrArg _ hsame).trans h.sounds, (congrArg (·[k]?) hsame) ▸ h.gate⟩
  | flags changes =>
    rw [atLastTick_host]
    exact ⟨h.sounds, h.gate⟩
  | tick n own around o =>
    obtain ⟨hheard, hown, hworld⟩ := hshows
    obtain ⟨l, t, clock, hl, rfl, -, hclock, hgate⟩ := h.gate_tick hflags ha own around hown hworld
    set view := Scope.layered own around s.flags
    have hread : l.heardGate (s.presenter.hearing view o) = l.active.gate ⟨.tick, view 0⟩ := by
      rw [← h.sound_eq hsound hl] at hheard
      exact if_pos hheard
    -- the sounds that the tick leaves, by the gates of the tick
    have hsounds : (s.tick n own around o).state.presenter.sounds = _ := s.presenter.sounds_tick n view o
    have hgates := LiveSound.gates_tickAll (s.presenter.hearing view o) 0 s.presenter.playing s.presenter.sounds
    rw [← hsounds] at hgates
    have hplace := congrArg (·[k]?) hgates
    simp only [List.getElem?_map, hl, Option.map_some] at hplace
    obtain ⟨l', hl', hgated⟩ := Option.map_eq_some_iff.1 hplace
    rw [hread, hgate] at hgated
    exact ⟨(s.presenter.tick_keeps_sounds n view o).trans h.sounds, l', _, hl', (Prod.mk.inj hgated).2, rfl,
      hclock.trans (atLastTick_tick deeds).symm⟩

/-- **Any concerns.** -/
theorem armed_run (h : s.Armed d k a (AtLastTick (Lit a.source) deeds))
    (hflags : s.flags = ({} : Flags).run (deeds.map Deed.change)) (hsound : d.sounds[k]? = some sound) (ha : a.Switch)
    {concerns : List Concern} {more : List Deed} (hdid : Did concerns more) (hkeeps : ∀ c ∈ concerns, c.keepsStage = true)
    (hshows : ∀ c ∈ concerns, c.Shows sound a.source) :
    (s.run concerns).state.Armed d k a (AtLastTick (Lit a.source) (deeds ++ more)) := by
  induction hdid generalizing s deeds with
  | nil =>
    rw [List.append_nil]
    exact h
  | @cons c concerns first rest hc _ ih =>
    have hfirst := h.step hflags hsound ha hc (hkeeps c List.mem_cons_self) (hshows c List.mem_cons_self)
    have hflags' : (s.step c).state.flags = ({} : Flags).run ((deeds ++ first).map Deed.change) := by
      rw [s.flags_step hc, hflags, List.map_append, Flags.run_append]
    rw [← List.append_assoc]
    exact ih hfirst hflags' (fun c' hc' => hkeeps c' (List.mem_cons_of_mem _ hc'))
      fun c' hc' => hshows c' (List.mem_cons_of_mem _ hc')

end Solo

/-! ## The tick of an entity -/

namespace Life

/-- the definition that an entity presents, and what concerned the entity since it came -/
structure Presents (l : Life) (d : Presentation) (since : List Concern) : Prop where
  came : l.presentation = d ∧ l.concerns = since ∨ ∃ before n, l.concerns = before ++ .reload d n :: since
  stays : ∀ c ∈ since, ∀ d' n, c ≠ .reload d' n

variable {l : Life} {d : Presentation} {since : List Concern} {deeds : List Deed} {k : Nat} {sound : Sound}
  {a : Animation Float}

theorem Presents.keepsStage (hd : l.Presents d since) (hleave : .leave ∉ l.concerns) :
    ∀ c ∈ since, c.keepsStage = true := by
  intro c hc
  cases c with
  | reload d' n => exact absurd rfl (hd.stays _ hc d' n)
  | leave =>
    refine absurd ?_ hleave
    rcases hd.came with ⟨-, hsince⟩ | ⟨before, n, hsince⟩ <;> rw [hsince] <;> simp [hc]
  | _ => rfl

variable (hd : l.Presents d since) (hleave : .leave ∉ l.concerns) (hdeeds : l.Deeds deeds) (settings : Settings)
  (hsound : d.sounds[k]? = some sound) (hactive : sound.active = [a]) (ha : a.Switch)
  (hshows : ∀ c ∈ since, c.Shows sound a.source)

include hd hleave hdeeds hsound hactive ha hshows

/-- the switch, in the life of an entity -/
theorem armed_solo : (l.solo settings).Armed d k a (AtLastTick (Lit a.source) deeds) := by
  have hkeeps := hd.keepsStage hleave
  obtain ⟨later, hdid, rfl⟩ := hdeeds
  rcases hd.came with ⟨rfl, hsince⟩ | ⟨before, n, hsince⟩
  · rw [hsince] at hdid
    have hstart : (Solo.start settings l.entity l.presentation l.since).Armed l.presentation k a
        (AtLastTick (Lit a.source) [.install l.presentation]) :=
      Solo.armed_of_build rfl hsound hactive (not_atLastTick_install [] _)
    rw [Life.solo, hsince]
    exact Solo.armed_run hstart rfl hsound ha hdid hkeeps hshows
  · rw [hsince] at hdid
    obtain ⟨first, rest, rfl, hfirst, hrest⟩ := hdid.split
    cases hrest with
    | cons hreload hrest =>
      cases hreload
      have hflags := (Solo.start settings l.entity l.presentation l.since).flags_run hfirst
      rw [Life.solo, hsince, Solo.run_append_state]
      generalize ((Solo.start settings l.entity l.presentation l.since).run before).state = s at hflags ⊢
      let history : List Deed := .install l.presentation :: first
      have hinstalled : (s.step (.reload d n)).state.Armed d k a (AtLastTick (Lit a.source) (history ++ [.install d])) :=
        Solo.armed_of_build rfl hsound hactive (not_atLastTick_install history d)
      have hflags' : (s.step (.reload d n)).state.flags =
          ({} : Flags).run ((history ++ [Deed.install d]).map Deed.change) := by
        rw [s.flags_step (.reload d n), hflags, List.map_append, Flags.run_append]
        rfl
      have hnow := Solo.armed_run hinstalled hflags' hsound ha hrest hkeeps hshows
      rw [List.append_assoc] at hnow
      exact hnow

/-- **A rise of the flag.** In a tick of an entity, the sound starts just if the flag is on, was not on in the last tick under
the same definition, and no instance plays. -/
theorem starts_on_rise (hlooping : sound.looping = false) (hforced : sound.forced = false) (n : Nat) (own : Option Scope)
    (around : World) (o : Observer) (hnow : Concern.Shows sound a.source (.tick n own around o)) :
    let p := (l.solo settings).presenter
    let scope := Scope.layered own around (l.solo settings).flags
    let rises := Lit a.source deeds ∧ ¬AtLastTick (Lit a.source) deeds
    let plays := Voices.has (p.voicesBefore scope o k) (.ofIndex k)
    (rises ∧ plays = false → (p.cuesOf scope o k).filter Cue.isStart = [.start l.entity (.ofIndex k) sound.name false]) ∧
      (¬(rises ∧ plays = false) → (p.cuesOf scope o k).filter Cue.isStart = []) := by
  intro p scope rises plays
  obtain ⟨hheard, hown, hworld⟩ := hnow
  have harmed := armed_solo hd hleave hdeeds settings hsound hactive ha hshows
  have hflags := l.flags_solo hdeeds settings
  obtain ⟨live, t, clock, hl, rfl, hengaged, -, hgate⟩ := harmed.gate_tick hflags ha own around hown hworld
  obtain rfl : live.sound = sound := harmed.sound_eq hsound hl
  have hsampling : (p.hearing scope o).sampling = ⟨.tick, scope 0⟩ := rfl
  have hentity : (p.hearing scope o).entity = l.entity := l.entity_solo settings
  have hstarts := live.tick_once (p.hearing scope o) (.ofIndex k) (p.voicesBefore scope o k) hlooping hforced hheard
  rw [hsampling, hgate, hentity] at hstarts
  have hrises : rises ↔ ((l.solo settings).flags.isSet t.animation.source && !t.clock.engaged) = true := by
    rw [Bool.and_eq_true, Bool.not_eq_true', ← Bool.not_eq_true, hengaged, hflags]
    rfl
  rw [p.cuesOf_sound scope o hl, hstarts, hrises]
  cases (l.solo settings).flags.isSet t.animation.source <;> cases t.clock.engaged <;> simp [plays]

end Life

end Stagecraft
