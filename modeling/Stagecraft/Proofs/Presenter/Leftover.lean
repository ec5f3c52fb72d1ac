/-
What a late report leaves behind. A presenter takes a report for the oldest voice of its sound. When the report is from an earlier
scene, that voice may still be heard, and once it is gone from the presenter no stop is given for it.

- `Balanced`, kept by every move: what will be live and what is reported is covered by the voices and by those ended by mistake.
- `live_le_mistaken`: no more outlives its scene than was ended by mistake.
- `engine_outlives_teardown`: and that much may.
-/
import Mathlib.Tactic
import Stagecraft.Proofs.Presenter.Session

namespace Stagecraft

/-! ## Balance -/

namespace Session

/-- the number of playbacks of a label once every cue is heard -/
def settled (s : Session) (label : SoundId × String) : Nat :=
  Cue.tallyAll label (s.live.countP (·.label = label)) s.cues

/-- the number of playbacks of earlier scenes once every cue of these is heard -/
def leftOver (s : Session) (label : SoundId × String) : Nat :=
  Cue.tallyAll label (s.live.countP fun b => b.scene < s.scene ∧ b.label = label) (s.cues.filter (·.1 < s.scene))

/-- the number of playbacks of the present scene with a report under way -/
def reported (s : Session) (label : SoundId × String) : Nat :=
  s.reports.countP fun b => b.scene = s.scene ∧ b.label = label

/-- what will be live and what is reported is covered by the voices and by those ended by mistake, what is left over from earlier
scenes by the latter alone -/
structure Balanced (s : Session) (label : SoundId × String) : Prop where
  present : s.settled label + s.reported label ≤
    s.presenter.playing.countP (·.label = label) + s.mistaken.countP (·.label = label)
  past : s.leftOver label ≤ s.mistaken.countP (·.label = label)

theorem balanced_new (entity : EntityId) (settings : Settings) (label : SoundId × String) :
    (new entity settings).Balanced label := by
  constructor <;> simp [settled, leftOver, reported, new, Cue.tallyAll]

/-- where every playback is of an earlier scene, these are all that count -/
theorem countP_earlier (label : SoundId × String) {now : Nat} {live : List Playback} (h : ∀ b ∈ live, b.scene < now) :
    live.countP (fun b => b.scene < now ∧ b.label = label) = live.countP (·.label = label) := by
  refine List.countP_congr fun b hb => ?_
  simp [h b hb]

section Balance

variable {s : Session} {label : SoundId × String} (h : s.Orderly) (hb : s.Balanced label)

include h

/-- no looping sound has a report under way -/
theorem Orderly.reported_eq_zero (hloop : s.presenter.Writes label.1 label.2 true) : s.reported label = 0 := by
  rw [reported, List.countP_eq_zero]
  intro b hb hcounts
  obtain ⟨hscene, rfl⟩ := of_decide_eq_true hcounts
  obtain ⟨-, hlooping⟩ := ((h.reports b hb).2 hscene).eq hloop
  exact Bool.false_ne_true hlooping

/-- there is no stop under way for a playback of the present scene that is not looping: whatever is still to be heard is of the
present scene too -/
theorem Orderly.not_stops {b : Playback} (hb : b ∈ s.live) (hscene : b.scene = s.scene) (hloop : b.looping = false) :
    ∀ c ∈ s.cues, ¬ c.2.Stops b.label := by
  intro c hc hstops
  have hnow : c.1 = s.scene := le_antisymm (h.cues c hc).1 (hscene ▸ h.live_le_cue hb hc)
  have hcue := (h.cues c hc).2 hnow
  cases hsame : c.2 with
  | stop entity sound name =>
    rw [hsame] at hcue hstops
    obtain ⟨rfl, rfl⟩ := Prod.mk.inj hstops
    obtain ⟨-, hlooping⟩ := ((h.live b hb).2 hscene).eq hcue
    exact Bool.false_ne_true (hloop.symm.trans hlooping)
  | start entity sound name looping =>
    rw [hsame] at hstops
    exact hstops
  | update entity sound volume pitch =>
    rw [hsame] at hstops
    exact hstops

/-- once a scene has ended, all is left over and no report is of the present scene -/
theorem Orderly.close (presenter : Presenter) (cues : List Cue) (label : SoundId × String) :
    let after : Session :=
      { s with presenter, scene := s.scene + 1, cues := s.cues ++ cues.map fun cue => (s.scene, cue) }
    after.reported label = 0 ∧
      after.settled label = Cue.tallyAll label (s.settled label) (cues.map fun cue => (s.scene, cue)) ∧
      after.leftOver label = after.settled label := by
  intro after
  refine ⟨?_, ?_, ?_⟩
  · rw [reported, List.countP_eq_zero]
    intro b hb hcounts
    obtain ⟨hscene, -⟩ := of_decide_eq_true hcounts
    have hle : b.scene ≤ s.scene := (h.reports b hb).1
    have hnext : b.scene = s.scene + 1 := hscene
    omega
  · simp only [settled, Cue.tallyAll, after, List.foldl_append]
  · have hcues : after.cues.filter (·.1 < after.scene) = after.cues := by
      rw [List.filter_eq_self]
      intro c hc
      have hle : c.1 ≤ s.scene := by
        rcases List.mem_append.1 hc with hc | hc
        · exact (h.cues c hc).1
        · obtain ⟨cue, -, rfl⟩ := List.mem_map.1 hc
          exact le_rfl
      exact decide_eq_true (Nat.lt_succ_of_le hle)
    have hlive : ∀ b ∈ after.live, b.scene < after.scene := fun b hb => Nat.lt_succ_of_le (h.live b hb).1
    rw [leftOver, settled, hcues, countP_earlier label hlive]

include hb

theorem Balanced.call (c : Call) (honest : ∀ sound, c ≠ .soundFinished sound) :
    (s.step (.call c honest)).Balanced label := by
  have hleads := s.presenter.leads_call c
  rw [Presenter.messages_of_honest honest] at hleads
  cases hcloses : c.closes with
  | true =>
    obtain ⟨hreported, hsettled, hleft⟩ :=
      h.close (s.presenter.call c).state (s.presenter.call c).output.audio label
    have hsilent : (s.presenter.call c).state.playing = [] := Presenter.playing_of_closes _ hcloses
    have hn : s.settled label + 0 ≤
        s.presenter.playing.countP (·.label = label) + s.mistaken.countP (·.label = label) :=
      (Nat.le_add_right _ _).trans hb.present
    have hcovered := tallyAll_le s.scene hleads (fun _ _ _ => rfl) hn
    rw [hsilent, List.countP_nil, ← hsettled] at hcovered
    simp only [step, hcloses, ↓reduceIte]
    refine ⟨?_, ?_⟩
    · rw [hreported, hsilent, List.countP_nil]
      exact hcovered
    · rw [hleft]
      simpa using hcovered
  | false =>
    have howed : ∀ cue ∈ (s.presenter.call c).output.audio, cue.Stops label → s.reported label = 0 := by
      intro cue hcue hstops
      have hwritten := h.inStep.of_call c hcloses cue hcue
      cases cue with
      | stop entity sound name =>
        obtain rfl : (sound, name) = label := hstops
        exact h.reported_eq_zero hwritten
      | start entity sound name looping => exact hstops.elim
      | update entity sound volume pitch => exact hstops.elim
    have hcovered := tallyAll_le s.scene hleads howed hb.present
    simp only [step, hcloses, Bool.false_eq_true, ↓reduceIte]
    refine ⟨?_, ?_⟩
    · rw [settled, Cue.tallyAll, List.foldl_append]
      exact hcovered
    · have hnone : ((s.presenter.call c).output.audio.map fun cue => (s.scene, cue)).filter (·.1 < s.scene) = [] := by
        simp [List.filter_map, Function.comp_def]
      have hpast := hb.past
      rw [leftOver] at hpast ⊢
      rwa [List.filter_append, hnone, List.append_nil]

theorem Balanced.hear : (s.step .hear).Balanced label := by
  rcases s.step_hear with hsame | ⟨scene, cue, cues, hcues, hstep⟩
  · rw [hsame]
    exact hb
  · rw [hstep]
    have hhead : (scene, cue) ∈ s.cues := by rw [hcues]; exact List.mem_cons_self
    have hpresent := hb.present
    have hpast := hb.past
    simp only [settled, hcues] at hpresent
    simp only [leftOver, hcues, List.filter_cons] at hpast
    refine ⟨?_, ?_⟩
    · rw [settled, Playback.countP_hear]
      exact hpresent
    · rw [leftOver]
      by_cases hearlier : scene < s.scene
      · -- so are all playbacks, as the host hears earlier scenes first
        simp only [hearlier, decide_true, ↓reduceIte] at hpast
        have hlive : ∀ b ∈ s.live, b.scene < s.scene := fun b hb => (h.live_le_cue hb hhead).trans_lt hearlier
        rw [countP_earlier label hlive] at hpast
        rw [countP_earlier label (Playback.forall_scene_hear hlive hearlier cue), Playback.countP_hear]
        exact hpast
      · simp only [hearlier, decide_false, Bool.false_eq_true, ↓reduceIte] at hpast
        refine (Cue.tallyAll_mono label ?_ _).trans hpast
        exact Playback.countP_hear_le _ _ (fun b hscene => by simp [hscene, hearlier]) _ _

/-- in the present scene only looping sounds are stopped, and what ends by itself is not one of them -/
theorem Balanced.finish (i : Nat) : (s.step (.finish i)).Balanced label := by
  rcases s.step_finish i with hsame | ⟨b, hi, hloop, hstep⟩
  · rw [hsame]
    exact hb
  · rw [hstep]
    have hfewer : ∀ q : Playback → Bool, (s.live.eraseIdx i).countP q ≤ s.live.countP q :=
      fun q => (List.eraseIdx_sublist _ _).countP_le
    refine ⟨?_, (Cue.tallyAll_mono label (hfewer _) _).trans hb.past⟩
    have hpresent := hb.present
    have hmem : b ∈ s.live := List.mem_of_getElem? hi
    rw [settled, reported] at hpresent ⊢
    rw [List.countP_append, List.countP_singleton]
    by_cases hcounts : b.scene = s.scene ∧ b.label = label
    · obtain ⟨hscene, rfl⟩ := hcounts
      rw [countP_eraseIdx _ hi] at hpresent
      simp only [decide_true, ↓reduceIte, Cue.tallyAll_succ _ _ _ (h.not_stops hmem hscene hloop), hscene,
        and_self] at hpresent ⊢
      omega
    · have hsettled := Cue.tallyAll_mono label (hfewer (·.label = label)) s.cues
      simp only [hcounts, decide_false, Bool.false_eq_true, ↓reduceIte]
      omega

/-- a report of the present scene ends a voice with the label of its playback, if any; another one ends a voice by mistake -/
theorem Balanced.deliver (i : Nat) : (s.step (.deliver i)).Balanced label := by
  rcases s.step_deliver i with hsame | ⟨b, hi, hstep⟩
  · rw [hsame]
    exact hb
  · rw [hstep]
    have hpresent := hb.present
    have hreported := countP_eraseIdx (fun b => b.scene = s.scene ∧ b.label = label) hi
    rw [reported] at hpresent
    simp only [Presenter.call, Presenter.soundFinished, Voices.dropOldest]
    cases hold : Voices.oldest? s.presenter.playing b.sound with
    | none =>
      rw [eraseP_of_find?_none hold, Option.toList_none, List.append_nil, ite_self]
      exact ⟨(Nat.add_le_add_left (List.eraseIdx_sublist _ _).countP_le _).trans hpresent, hb.past⟩
    | some v =>
      have hended := countP_eraseP_of_find? (q := (·.label = label)) hold
      by_cases hscene : b.scene = s.scene
      · have hsound : v.sound = b.sound := by simpa using List.find?_some hold
        have hvoice := h.inStep.voices v (List.mem_of_find?_eq_some hold)
        have hreport := (h.reports b (List.mem_of_getElem? hi)).2 hscene
        rw [hsound] at hvoice
        have hlabel : v.label = b.label := Prod.ext hsound (hvoice.eq hreport).1
        rw [if_pos hscene]
        refine ⟨?_, hb.past⟩
        change s.settled label + (s.reports.eraseIdx i).countP (fun b => b.scene = s.scene ∧ b.label = label) ≤ _
        simp only [hscene, true_and, hlabel] at hreported hended
        dsimp only
        omega
      · rw [if_neg hscene]
        simp only [hscene, false_and, decide_false, Bool.false_eq_true, ↓reduceIte, Nat.add_zero] at hreported
        refine ⟨?_, ?_⟩
        · change s.settled label + (s.reports.eraseIdx i).countP (fun b => b.scene = s.scene ∧ b.label = label) ≤ _
          simp only [Option.toList_some, List.countP_append, List.countP_singleton]
          omega
        · exact hb.past.trans ((List.sublist_append_left _ _).countP_le)

theorem Balanced.step (m : Move) : (s.step m).Balanced label := by
  cases m with
  | call c honest => exact hb.call h c honest
  | hear => exact hb.hear h
  | finish i => exact hb.finish h i
  | deliver i => exact hb.deliver h i

end Balance

/-! ## Main result -/

/-- moves that set up no more parts than there are ids keep a session in order and in balance -/
theorem Orderly.run {s : Session} (h : s.Orderly) (hb : ∀ label, s.Balanced label) (moves : List Move)
    (hm : ∀ m ∈ moves, ∀ d, m.presentation? = some d → d.Addressable) :
    (s.run moves).Orderly ∧ ∀ label, (s.run moves).Balanced label := by
  induction moves generalizing s with
  | nil => exact ⟨h, hb⟩
  | cons m moves ih =>
    exact ih (h.step m (hm m List.mem_cons_self)) (fun label => (hb label).step h m)
      fun later hlater => hm later (List.mem_cons_of_mem m hlater)

/-- off stage, every playback is of an earlier scene -/
theorem Orderly.earlier_of_offStage {s : Session} (h : s.Orderly) (hoff : s.presenter.stage = none) {b : Playback}
    (hb : b ∈ s.live) : b.scene < s.scene := by
  obtain ⟨hle, hpresent⟩ := h.live b hb
  exact hle.lt_of_ne fun hnow => Presenter.not_writes_of_offStage hoff _ _ _ (hpresent hnow)

/-- **What outlives its scene.** Whatever passes between a new presenter and its audio host, in any order, as long as no
presentation has more entries in a list than there are ids: once the host has heard every cue of the scenes that have ended, no
more playbacks of a sound and a name are left over from these than voices of that sound and name were ended by a report from an
earlier scene. So it is with all playbacks, once the presenter is off stage and the host has heard every cue; and if no voice was
ended like that, there is no playback left. -/
theorem live_le_mistaken (entity : EntityId) (settings : Settings) (moves : List Move)
    (hm : ∀ m ∈ moves, ∀ d, m.presentation? = some d → d.Addressable) :
    let s := (new entity settings).run moves
    (∀ label, (∀ c ∈ s.cues, c.1 = s.scene) →
      (s.live.countP fun b => b.scene < s.scene ∧ b.label = label) ≤ s.mistaken.countP (·.label = label)) ∧
    (s.presenter.stage = none → s.cues = [] →
      (∀ label, s.live.countP (·.label = label) ≤ s.mistaken.countP (·.label = label)) ∧
        (s.mistaken = [] → s.live = [])) := by
  intro s
  obtain ⟨h, hb⟩ : s.Orderly ∧ ∀ label, s.Balanced label :=
    (orderly_new entity settings).run (balanced_new entity settings) moves hm
  have hpast : ∀ label, (∀ c ∈ s.cues, c.1 = s.scene) →
      (s.live.countP fun b => b.scene < s.scene ∧ b.label = label) ≤ s.mistaken.countP (·.label = label) := by
    intro label hheard
    have hnone : s.cues.filter (·.1 < s.scene) = [] := by
      rw [List.filter_eq_nil_iff]
      intro c hc
      simp [hheard c hc]
    have hcovered := (hb label).past
    rwa [leftOver, hnone] at hcovered
  refine ⟨hpast, fun hoff hheard => ?_⟩
  have hlive : ∀ label, s.live.countP (·.label = label) ≤ s.mistaken.countP (·.label = label) := by
    intro label
    rw [← countP_earlier label fun b hb => h.earlier_of_offStage hoff hb]
    exact hpast label (by simp [hheard])
  refine ⟨hlive, fun hnone => List.eq_nil_iff_forall_not_mem.2 fun b hb => ?_⟩
  have hcount := hlive b.label
  rw [hnone, List.countP_nil, Nat.le_zero, List.countP_eq_zero] at hcount
  exact hcount b hb (decide_eq_true rfl)

/-- a gun that fires on every tick -/
def gun : Presentation := ⟨[], [⟨"shot", false, true, false, false, [], [], []⟩], [], [], []⟩

/-- an engine that always runs, under the id of the shot -/
def motor : Presentation := ⟨[], [⟨"engine", true, false, false, false, [], [], []⟩], [], [], []⟩

/-- a shot is fired and ends, and then the gun is replaced by the motor; its report is under way -/
def shotEnded : List Move :=
  [.call (.activate gun 0) nofun, .call (.tick 1 (fun _ _ => none) {}) nofun, .hear, .hear, .finish 0,
    .call (.reload motor 2) nofun]

/-- the motor starts and stops, heard by the host -/
def motorRuns : List Move := [.call (.tick 3 (fun _ _ => none) {}) nofun, .hear, .hear, .hear]

def motorStops : List Move := [.call .teardown nofun, .hear]

/-- the report of the shot arrives before the motor starts, and nothing is left at the end -/
theorem live_le_mistaken_shot :
    let moves := shotEnded ++ [.deliver 0] ++ motorRuns ++ motorStops
    let s := (new ⟨7⟩ {}).run moves
    (∀ m ∈ moves, ∀ d, m.presentation? = some d → d.Addressable) ∧ s.scene = 2 ∧ s.live = [] := by
  intro moves s
  have hm : ∀ m ∈ moves, ∀ d, m.presentation? = some d → d.Addressable := by
    intro m hm d hd
    simp only [moves, shotEnded, motorRuns, motorStops, List.cons_append, List.nil_append, List.mem_cons,
      List.not_mem_nil, or_false] at hm
    rcases hm with rfl | rfl | rfl | rfl | rfl | rfl | rfl | rfl | rfl | rfl | rfl | rfl | rfl <;> cases hd <;>
      constructor <;> decide
  obtain ⟨-, hleft⟩ := live_le_mistaken ⟨7⟩ {} moves hm
  exact ⟨hm, by decide +kernel, (hleft (by decide +kernel) (by decide +kernel)).2 (by decide +kernel)⟩

/-- the report of the shot arrives while the motor runs and is taken for the end of the engine: the presenter gives no stop for
it, and the host never ends it -/
theorem engine_outlives_teardown :
    let s := (new ⟨7⟩ {}).run (shotEnded ++ motorRuns ++ [.deliver 0] ++ motorStops)
    s.presenter.stage = none ∧ s.cues = [] ∧ s.reports = [] ∧ s.live = [⟨⟨0⟩, "engine", true, 1⟩] := by
  decide +kernel

end Session

end Stagecraft
