/-
Variables without an answer. Where a variable has no value, or a NaN for one, 0 stands in for the value, but the clock takes its
own signal once more: it goes on as it would under any answer with that signal, and does not move. So a gate whose
visibilities have no answers does not move, and nothing fires that goes by moves, though the 0 may well open the gate.

- `ticked_unknown`: the clock of one track.
- `moved_unknown`: one gate.
- `no_edge_without_answer`: a tick of a presenter.
-/
import Mathlib.Tactic
import Stagecraft.Proofs.Channel.Gates
import Stagecraft.Proofs.Presenter.Edge
import Stagecraft.Proofs.Presenter.Silence

namespace Stagecraft

/-- a name that has no value, or a NaN for one -/
def Unknown (lookup : String → Option Float) (name : String) : Prop := ∀ v, lookup name = some v → v.isNaN = true

/-- every visibility that a gate consults has an unknown variable -/
def Channel.Blind (lookup : String → Option Float) (c : Channel) : Prop :=
  ∀ t ∈ c.consulted [] lookup .free, t.animation.kind = .visibility → Unknown lookup t.animation.source

/-! ## One track -/

theorem Sampling.resolve_eq_none_iff (s : Sampling) (name : String) : s.resolve name = none ↔ Unknown s.lookup name := by
  rw [resolve, Option.filter_eq_none_iff, Unknown]
  simp

theorem Unknown.resolve {lookup : String → Option Float} {name : String} (h : Unknown lookup name) :
    (⟨.tick, lookup⟩ : Sampling).resolve name = none := (Sampling.resolve_eq_none_iff ⟨.tick, lookup⟩ name).2 h

/-- without an answer, a clock takes its own signal once more -/
theorem Track.ticked_unknown (t : Track) {lookup : String → Option Float} (h : Unknown lookup t.animation.source) :
    t.ticked lookup = { t with clock := t.clock.advance t.animation.toTiming t.clock.engaged } := by
  rw [ticked, h.resolve]
  rfl

/-- with an answer, it takes the signal of the answer -/
theorem Track.ticked_answer (t : Track) {lookup : String → Option Float} {raw : Float}
    (hlookup : lookup t.animation.source = some raw) (hraw : raw.isNaN = false) :
    t.ticked lookup = { t with clock := t.clock.advance t.animation.toTiming (t.animation.signal raw) } := by
  rw [ticked, Sampling.resolve_answer hraw hlookup]
  rfl

theorem Track.moved_ticked_unknown (t : Track) {lookup : String → Option Float}
    (h : Unknown lookup t.animation.source) : (t.ticked lookup).clock.moved = false := by
  rw [t.ticked_unknown h, Clock.advance_moved]
  exact bne_self_eq_false _

/-! ## One gate -/

/-- a gate does not move as long as the visibilities that it consults are unknown -/
theorem Channel.moved_unknown {lookup : String → Option Float} {c : Channel} (h : c.Blind lookup) :
    (c.gate ⟨.tick, lookup⟩).result.moved = false := by
  rw [gate_result, scannedGate, Bool.false_or, List.any_eq_false]
  intro t ht
  rw [Bool.and_eq_true, decide_eq_true_eq]
  rintro ⟨hkind, hmoved⟩
  rw [t.moved_ticked_unknown (h t ht hkind)] at hmoved
  cases hmoved

/-! ## One tick -/

/-- a sound that plays once says nothing in a tick in which its gate does not move -/
theorem LiveSound.tick_unmoved (h : Hearing) (id : SoundId) (playing : List Voice) (l : LiveSound)
    (hlooping : l.sound.looping = false) (hforced : l.sound.forced = false)
    (hstill : (l.active.gate h.sampling).result.moved = false) : (l.tick h id playing).output = [] := by
  have hmoved : (l.heardGate h).result.moved = false := by
    unfold heardGate
    split_ifs
    · exact hstill
    · rfl
  have hplays : plays l.sound (l.heardGate h).result = false := by simp [plays, hlooping, hforced, hmoved]
  simp only [tick, hplays, Bool.false_eq_true, ↓reduceIte, silence, hlooping]

namespace Presenter

theorem cuesOf_unknown (p : Presenter) (scope : Scope) (o : Observer) (k : Nat) (l : LiveSound)
    (hl : p.sounds[k]? = some l) (hlooping : l.sound.looping = false) (hforced : l.sound.forced = false)
    (hblind : l.active.Blind (scope 0)) : p.cuesOf scope o k = [] := by
  rw [p.cuesOf_sound scope o hl]
  exact l.tick_unmoved (p.hearing scope o) _ _ hlooping hforced (Channel.moved_unknown hblind)

theorem spawnsOf_unknown (p : Presenter) (n : Nat) (scope : Scope) (k : Nat) (l : LiveEmitter)
    (hl : p.emitters[k]? = some l) (honce : l.emitter.everyTick = false) (hblind : l.active.Blind (scope 0)) :
    p.spawnsOf n scope k = [] := by
  rw [p.spawnsOf_emitter n scope hl, l.tick_once _ _ _ _ honce, Channel.moved_unknown hblind, Bool.and_false, if_neg Bool.false_ne_true]

theorem particle_of_mem_spawnsOf (p : Presenter) (n : Nat) (scope : Scope) (k : Nat) :
    ∀ s ∈ p.spawnsOf n scope k, s.particle = .ofIndex k := by
  intro s hs
  unfold spawnsOf Reading.part at hs
  split at hs
  · unfold LiveEmitter.tick at hs
    simp only [Nat.zero_add] at hs
    split_ifs at hs
    · rw [List.mem_singleton.1 hs]
    · cases hs
  · cases hs

/-- an emitter that has no share in a tick has no spawn in it, as long as ids are distinct -/
theorem no_spawn_of_spawnsOf (p : Presenter) (n : Nat) (scope : Scope) (o : Observer) (k : Nat)
    (hk : k < p.emitters.length) (hids : p.emitters.length ≤ 2 ^ 32) (hnone : p.spawnsOf n scope k = []) :
    ∀ s ∈ (p.tick n scope o).output.spawns, s.particle ≠ .ofIndex k := by
  intro s hs
  rw [p.tick_spawns] at hs
  obtain ⟨j, hj, hmem⟩ := List.mem_flatMap.1 hs
  rw [p.particle_of_mem_spawnsOf n scope j s hmem]
  rcases lt_trichotomy j k with hlt | rfl | hgt
  · exact ParticleId.ofIndex_ne hlt (by omega)
  · rw [hnone] at hmem
    cases hmem
  · rw [List.mem_range] at hj
    exact (ParticleId.ofIndex_ne hgt (by omega)).symm

/-- and so for the cues of a sound -/
theorem no_cue_of_cuesOf (p : Presenter) (n : Nat) (scope : Scope) (o : Observer) (k : Nat) (l : LiveSound)
    (hl : p.sounds[k]? = some l) (hids : p.sounds.length ≤ 2 ^ 32) (hnone : p.cuesOf scope o k = []) :
    ∀ c ∈ (p.tick n scope o).output.audio, c.sound ≠ .ofIndex k := by
  have hshare := (p.tick_sound hids n scope o k l hl).2
  rw [← p.cuesOf_sound scope o hl, hnone, List.filter_eq_nil_iff] at hshare
  intro c hc
  simpa using hshare c hc

/-! ## Main result -/

/-- **No edge without an answer.** Sampled in a tick in which its variable is unknown, a clock keeps its signal, does not move,
and comes out as it would under any answer with that signal. So in every tick of a presenter, whatever calls led to it: as long
as the visibilities that its gate consults are unknown, a sound that plays once says nothing, and an emitter that does not spawn
on every tick does not spawn. -/
theorem no_edge_without_answer :
    (∀ (t : Track) (lookup : String → Option Float) (stacking : Float), Unknown lookup t.animation.source →
      let after := t.sample ⟨.tick, lookup⟩ stacking
      after.1.clock.engaged = t.clock.engaged ∧ after.1.clock.moved = false ∧ after.2.moved = false ∧
        ∀ (other : String → Option Float) (riding raw : Float), other t.animation.source = some raw →
          raw.isNaN = false → t.animation.signal raw = t.clock.engaged →
          (t.sample ⟨.tick, other⟩ riding).1 = after.1) ∧
    ∀ (p : Presenter) (n : Nat) (scope : Scope) (o : Observer),
      let output := (p.tick n scope o).output
      output.audio = (List.range p.sounds.length).flatMap (p.cuesOf scope o) ∧
      output.spawns = (List.range p.emitters.length).flatMap (p.spawnsOf n scope) ∧
      (∀ k l, p.sounds[k]? = some l → l.sound.looping = false → l.sound.forced = false → l.active.Blind (scope 0) →
        p.cuesOf scope o k = [] ∧ (p.sounds.length ≤ 2 ^ 32 → ∀ c ∈ output.audio, c.sound ≠ .ofIndex k)) ∧
      ∀ k l, p.emitters[k]? = some l → l.emitter.everyTick = false → l.active.Blind (scope 0) →
        p.spawnsOf n scope k = [] ∧ (p.emitters.length ≤ 2 ^ 32 → ∀ s ∈ output.spawns, s.particle ≠ .ofIndex k) := by
  refine ⟨fun t lookup stacking hunknown => ?_, fun p n scope o => ⟨p.tick_audio n scope o, p.tick_spawns n scope o,
    fun k l hl hlooping hforced hblind => ?_, fun k l hl honce hblind => ?_⟩⟩
  · have hticked := t.ticked_unknown hunknown
    refine ⟨?_, t.moved_ticked_unknown hunknown, t.moved_ticked_unknown hunknown, ?_⟩
    · rw [t.sample_ticked, hticked]
      exact Clock.advance_engaged _ _ _
    · intro other riding raw hother hraw hsame
      rw [t.sample_ticked, t.sample_ticked, hticked, t.ticked_answer hother hraw, hsame]
  · have hnone := p.cuesOf_unknown scope o k l hl hlooping hforced hblind
    exact ⟨hnone, fun hids => p.no_cue_of_cuesOf n scope o k l hl hids hnone⟩
  · have hnone := p.spawnsOf_unknown n scope k l hl honce hblind
    have hk : k < p.emitters.length := (List.getElem?_eq_some_iff.1 hl).1
    exact ⟨hnone, fun hids => p.no_spawn_of_spawnsOf n scope o k hk hids hnone⟩

/-- open while a rope hangs loose -/
def loose : Animation Float := Animation.plain .visibility "rope"

def chime : Sound := ⟨"chime", false, false, false, false, [loose], [], []⟩

def dust : Emitter := ⟨"dust", 1, false, [loose]⟩

/-- the rope hangs loose in one tick, is pulled in the next, and lost in the third, where all that is known of it is a NaN: the 0
in its place opens the gate, and nothing happens, where a rope that is known to hang loose raises dust -/
theorem no_edge_without_answer_bell :
    let hanging := (Table.ofList [("rope", 0)]).scope
    let pulled := (Table.ofList [("rope", 1)]).scope
    let lost : Scope := fun _ _ => some (0.0 / 0.0)
    let p := ((new ⟨7⟩ {}).run [.activate ⟨[], [chime], [dust], [], []⟩ 0, .tick 1 hanging {}, .tick 2 pulled {}]).state
    let t : Track := ⟨loose, .linear, { moved := true }⟩
    Unknown (lost 0) loose.source ∧ loose.signal 1 = t.clock.engaged ∧
      (t.sample ⟨.tick, pulled 0⟩ 0).1 = (t.sample ⟨.tick, lost 0⟩ 0).1 ∧
      (Channel.gate ⟨.tick, lost 0⟩ [t]).result.isOpen = true ∧
      p.cuesOf lost {} 0 = [] ∧ p.spawnsOf 3 lost 0 = [] ∧ p.spawnsOf 3 hanging 0 = [⟨⟨7⟩, ⟨0⟩, 1⟩] ∧
      (∀ c ∈ (p.tick 3 lost {}).output.audio, c.sound ≠ .ofIndex 0) ∧
      ∀ s ∈ (p.tick 3 lost {}).output.spawns, s.particle ≠ .ofIndex 0 := by
  intro hanging pulled lost p t
  have hunknown : ∀ name, Unknown (lost 0) name := by
    intro name v hv
    obtain rfl : 0.0 / 0.0 = v := Option.some.inj hv
    decide +kernel
  have hsignal : loose.signal 1 = t.clock.engaged := by decide +kernel
  have hsound : p.sounds[0]? = some ⟨chime, [t], [], []⟩ := by decide +kernel
  have hemitter : p.emitters[0]? = some ⟨dust, [t], 1⟩ := by decide +kernel
  obtain ⟨hclocks, hticks⟩ := no_edge_without_answer
  obtain ⟨-, -, hsounds, hemitters⟩ := hticks p 3 lost {}
  obtain ⟨hcues, hsilent⟩ := hsounds 0 _ hsound rfl rfl fun _ _ _ => hunknown _
  obtain ⟨hspawns, hnone⟩ := hemitters 0 _ hemitter rfl fun _ _ _ => hunknown _
  refine ⟨hunknown _, hsignal, ?_, by decide +kernel, hcues, hspawns, by decide +kernel, hsilent (by decide +kernel),
    hnone (by decide +kernel)⟩
  exact (hclocks t (lost 0) 0 (hunknown _)).2.2.2 (pulled 0) 0 1 (by decide +kernel) (by decide +kernel) hsignal

end Presenter

end Stagecraft
