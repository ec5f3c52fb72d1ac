/-
A presenter and its audio host. Cues reach the host in the order in which they were given, but at any later time. A playback
that ends by itself is reported, and the report arrives at any later time and in any order. It carries the id of a sound and
nothing else, and ids are given out anew with every presentation: a report that comes in a later scene than the start of its
playback ends a voice that may still be heard.

- `Session`: the presenter, the host, and all that is under way between them.
- `Presenter.InStep.of_call`: the cues of a call within a scene are for sounds of the presentation on stage.
- `Orderly`, kept by every move: what is of the present scene is as that presentation has it.
-/
import Mathlib.Tactic
import Stagecraft.Proofs.Presenter.InStep
import Stagecraft.Proofs.Presenter.Playback

namespace Stagecraft

/-! ## The session -/

/-- a call that ends a scene -/
def Call.closes : Call → Bool
  | .reload .. => true
  | .teardown => true
  | _ => false

structure Session where
  presenter : Presenter
  /-- the number of scenes that have ended -/
  scene : Nat := 0
  /-- the cues that the host has not heard yet, in order, each with the scene in which it was given -/
  cues : List (Nat × Cue) := []
  /-- the playbacks at the host, oldest first -/
  live : List Playback := []
  /-- the playbacks that ended by themselves and whose report has not arrived yet -/
  reports : List Playback := []
  /-- the voices that were ended by a report from an earlier scene -/
  mistaken : List Voice := []

namespace Session

inductive Move where
  /-- a call on the presenter; reports come from the host only -/
  | call (c : Call) (honest : ∀ sound, c ≠ .soundFinished sound)
  /-- the host hears the next cue -/
  | hear
  /-- the host ends a playback by itself, unless it is looping, and reports it -/
  | finish (i : Nat)
  /-- a report arrives -/
  | deliver (i : Nat)

/-- the presentation that a move sets up -/
def Move.presentation? : Move → Option Presentation
  | .call c _ => c.presentation?
  | _ => none

def new (entity : EntityId) (settings : Settings) : Session := { presenter := .new entity settings }

def step (s : Session) : Move → Session
  | .call c _ =>
    { s with
      presenter := (s.presenter.call c).state
      scene := if c.closes then s.scene + 1 else s.scene
      cues := s.cues ++ (s.presenter.call c).output.audio.map fun cue => (s.scene, cue) }
  | .hear =>
    match s.cues with
    | (scene, cue) :: cues => { s with cues, live := Playback.hear scene s.live cue }
    | [] => s
  | .finish i =>
    match s.live[i]? with
    | some b => if b.looping then s else { s with live := s.live.eraseIdx i, reports := s.reports ++ [b] }
    | none => s
  | .deliver i =>
    match s.reports[i]? with
    | some b =>
      { s with
        presenter := (s.presenter.call (.soundFinished b.sound)).state
        reports := s.reports.eraseIdx i
        mistaken :=
          if b.scene = s.scene then s.mistaken
          else s.mistaken ++ (Voices.oldest? s.presenter.playing b.sound).toList }
    | none => s

def run (s : Session) (moves : List Move) : Session := moves.foldl step s

theorem step_hear (s : Session) : s.step .hear = s ∨ ∃ scene cue cues, s.cues = (scene, cue) :: cues ∧
    s.step .hear = { s with cues, live := Playback.hear scene s.live cue } := by
  cases hcues : s.cues with
  | nil => exact .inl (by simp only [step, hcues])
  | cons c cues => exact .inr ⟨c.1, c.2, cues, rfl, by simp only [step, hcues]⟩

theorem step_finish (s : Session) (i : Nat) : s.step (.finish i) = s ∨ ∃ b, s.live[i]? = some b ∧ b.looping = false ∧
    s.step (.finish i) = { s with live := s.live.eraseIdx i, reports := s.reports ++ [b] } := by
  cases hi : s.live[i]? with
  | none => exact .inl (by simp only [step, hi])
  | some b =>
    cases hloop : b.looping with
    | true => exact .inl (by simp only [step, hi, hloop, ↓reduceIte])
    | false => exact .inr ⟨b, rfl, hloop, by simp only [step, hi, hloop, Bool.false_eq_true, ↓reduceIte]⟩

theorem step_deliver (s : Session) (i : Nat) : s.step (.deliver i) = s ∨ ∃ b, s.reports[i]? = some b ∧
    s.step (.deliver i) =
      { s with
        presenter := (s.presenter.call (.soundFinished b.sound)).state
        reports := s.reports.eraseIdx i
        mistaken :=
          if b.scene = s.scene then s.mistaken
          else s.mistaken ++ (Voices.oldest? s.presenter.playing b.sound).toList } := by
  cases hi : s.reports[i]? with
  | none => exact .inl (by simp only [step, hi])
  | some b => exact .inr ⟨b, rfl, by simp only [step, hi]⟩

end Session

/-! ## Cues of the presentation -/

/-- a cue for a sound with a property of its id, its name and whether it is looping; only looping sounds are stopped -/
def Cue.Of (P : SoundId → String → Bool → Prop) : Cue → Prop
  | .start _ sound name looping => P sound name looping
  | .stop _ sound name => P sound name true
  | .update .. => True

theorem Cue.Of.mono {P Q : SoundId → String → Bool → Prop} (hPQ : ∀ sound name looping, P sound name looping →
    Q sound name looping) {cue : Cue} (h : cue.Of P) : cue.Of Q := by
  cases cue with
  | start entity sound name looping => exact hPQ sound name looping h
  | stop entity sound name => exact hPQ sound name true h
  | update entity sound volume pitch => trivial

namespace LiveSound

variable {p : Presenter} {playing : List Voice}

theorem of_start (h : Hearing) (id : SoundId) (s : Sound) (hnew : p.Writes id s.name s.looping) :
    ∀ cue ∈ (start h id s playing).2, cue.Of p.Writes := by
  unfold start
  split_ifs
  · intro cue hcue
    exact absurd hcue List.not_mem_nil
  · intro cue hcue
    obtain rfl := List.mem_singleton.1 hcue
    exact hnew

theorem of_silence (h : Hearing) (id : SoundId) (s : Sound) (hnew : p.Writes id s.name s.looping)
    (hall : Voices.All p.Writes playing) : ∀ cue ∈ (silence h id s playing).2, cue.Of p.Writes := by
  intro cue hcue
  unfold silence at hcue
  split_ifs at hcue with hloop
  · cases holdest : Voices.oldest? playing id with
    | none => simp [holdest] at hcue
    | some v =>
      simp only [holdest, List.mem_singleton] at hcue
      subst hcue
      -- the voice is one of the sound that is written at the id
      have hid : v.sound = id := by simpa using List.find?_some holdest
      have hvoice := hall v (List.mem_of_find?_eq_some holdest)
      rw [hid] at hvoice
      obtain ⟨hname, -⟩ := hvoice.eq hnew
      change p.Writes id v.name true
      rw [hname, ← hloop]
      exact hnew
  · exact absurd hcue List.not_mem_nil

theorem of_tick (h : Hearing) (id : SoundId) (l : LiveSound) (hnew : p.Writes id l.sound.name l.sound.looping)
    (hall : Voices.All p.Writes playing) : ∀ cue ∈ (l.tick h id playing).output, cue.Of p.Writes := by
  unfold tick
  simp only
  split_ifs
  · intro cue hcue
    rcases List.mem_append.1 hcue with hcue | hcue
    · exact of_start h id l.sound hnew cue hcue
    · obtain rfl := List.mem_singleton.1 hcue
      trivial
  · exact of_silence h id l.sound hnew hall

theorem of_tickAll (h : Hearing) (index : Nat) (ls : List LiveSound)
    (hnew : ∀ k l, ls[k]? = some l → p.Writes (.ofIndex (index + k)) l.sound.name l.sound.looping)
    (hall : Voices.All p.Writes playing) : ∀ cue ∈ (tickAll h index playing ls).output, cue.Of p.Writes := by
  induction ls generalizing index playing with
  | nil => exact fun _ hcue => absurd hcue List.not_mem_nil
  | cons l ls ih =>
    intro cue hcue
    rcases List.mem_append.1 hcue with hcue | hcue
    · exact of_tick h _ l (hnew 0 l rfl) hall cue hcue
    · refine ih (index + 1) (fun k later hk => ?_) (all_tick h _ l (hnew 0 l rfl) hall) cue hcue
      have hlater := hnew (k + 1) later hk
      rwa [Nat.add_assoc, Nat.add_comm 1]

end LiveSound

namespace Presenter

/-- but for a report, what passes in a call are the cues of its answer -/
theorem messages_of_honest {c : Call} (honest : ∀ sound, c ≠ .soundFinished sound) (answer : Answer) :
    messages c answer = answer.audio.map .cue := by
  cases c with
  | soundFinished sound => exact absurd rfl (honest sound)
  | _ => rfl

theorem playing_of_closes (p : Presenter) {c : Call} (hc : c.closes = true) : (p.call c).state.playing = [] := by
  cases c with
  | reload d t => rfl
  | teardown => rfl
  | _ => cases hc

/-- within a scene, cues are for sounds of the presentation, and only looping ones are stopped -/
theorem InStep.of_call {p : Presenter} (h : p.InStep) (c : Call) (hc : c.closes = false) :
    ∀ cue ∈ (p.call c).output.audio, cue.Of p.Writes := by
  intro cue hcue
  cases c with
  | reload d t => cases hc
  | teardown => cases hc
  | tick n scope o =>
    cases hp : p.stage with
    | none =>
      simp only [Presenter.call, Presenter.tick, hp, Answer.audio] at hcue
      exact absurd hcue List.not_mem_nil
    | some stage =>
      simp only [Presenter.call, Presenter.tick, hp, Answer.audio] at hcue
      refine LiveSound.of_tickAll _ 0 stage.sounds (fun k l hl => ?_) h.voices cue hcue
      rw [Nat.zero_add]
      exact h.writes hp hl
  | activate d t => exact absurd hcue List.not_mem_nil
  | frame q scope => exact absurd hcue List.not_mem_nil
  | soundFinished sound => exact absurd hcue List.not_mem_nil

/-- within a scene, the sounds of the presentation remain -/
theorem Writes.call {p : Presenter} {c : Call} (hc : c.closes = false) {sound : SoundId} {name : String} {looping : Bool}
    (h : p.Writes sound name looping) : (p.call c).state.Writes sound name looping := by
  obtain ⟨d, s, hd, hs⟩ := h
  refine ⟨d, s, ?_, hs⟩
  cases c with
  | reload d t => cases hc
  | teardown => cases hc
  | activate d' t =>
    obtain ⟨stage, hstage, -⟩ := Option.map_eq_some_iff.1 hd
    simp only [Presenter.call, activate, hstage]
    exact hd
  | tick n scope o => exact (p.presentation?_tick n scope o).trans hd
  | frame q scope => exact (p.presentation?_frame q scope).trans hd
  | soundFinished sound => exact hd

end Presenter

/-! ## Order -/

/-- of the present scene or an earlier one; if of the present one, then with a fact -/
def Dated (now scene : Nat) (fact : Prop) : Prop := scene ≤ now ∧ (scene = now → fact)

theorem Dated.present {now : Nat} {fact : Prop} (h : fact) : Dated now now fact := ⟨le_rfl, fun _ => h⟩

theorem Dated.mono {now scene : Nat} {fact other : Prop} (himp : fact → other) (h : Dated now scene fact) :
    Dated now scene other :=
  ⟨h.1, fun hnow => himp (h.2 hnow)⟩

/-- when a scene ends, nothing is of the next one -/
theorem Dated.close {now scene : Nat} {fact : Prop} (h : Dated now scene fact) (other : Prop) :
    Dated (now + 1) scene other :=
  ⟨h.1.trans (Nat.le_succ now), fun hnext => absurd h.1 (by omega)⟩

namespace Session

/-- the scenes of the playbacks, and then of the cues -/
def scenes (s : Session) : List Nat := s.live.map (·.scene) ++ s.cues.map (·.1)

/-- what is of the present scene is as the presentation has it, and the host has heard earlier scenes first -/
structure Orderly (s : Session) : Prop where
  inStep : s.presenter.InStep
  cues : ∀ c ∈ s.cues, Dated s.scene c.1 (c.2.Of s.presenter.Writes)
  live : ∀ b ∈ s.live, Dated s.scene b.scene (s.presenter.Writes b.sound b.name b.looping)
  reports : ∀ b ∈ s.reports, Dated s.scene b.scene (s.presenter.Writes b.sound b.name false)
  sorted : s.scenes.Pairwise (· ≤ ·)

theorem orderly_new (entity : EntityId) (settings : Settings) : (new entity settings).Orderly :=
  ⟨Presenter.inStep_new entity settings, by simp [new], by simp [new], by simp [new], .nil⟩

section Order

variable {s : Session} (h : s.Orderly)

include h

/-- no playback is of a later scene than a cue -/
theorem Orderly.live_le_cue {b : Playback} (hb : b ∈ s.live) {c : Nat × Cue} (hc : c ∈ s.cues) : b.scene ≤ c.1 :=
  (List.pairwise_append.1 h.sorted).2.2 _ (List.mem_map_of_mem hb) _ (List.mem_map_of_mem hc)

/-- the cues of one more call are of the present scene -/
theorem Orderly.sorted_append (cues : List Cue) :
    (s.scenes ++ (cues.map fun cue => (s.scene, cue)).map (·.1)).Pairwise (· ≤ ·) := by
  rw [List.map_map, List.pairwise_append]
  refine ⟨h.sorted, ?_, fun scene hscene now hnow => ?_⟩
  · rw [List.pairwise_map]
    exact List.pairwise_of_forall fun _ _ => le_rfl
  · obtain ⟨-, -, rfl⟩ := List.mem_map.1 hnow
    rcases List.mem_append.1 hscene with hscene | hscene
    · obtain ⟨b, hb, rfl⟩ := List.mem_map.1 hscene
      exact (h.live b hb).1
    · obtain ⟨c, hc, rfl⟩ := List.mem_map.1 hscene
      exact (h.cues c hc).1

theorem Orderly.call (c : Call) (honest : ∀ sound, c ≠ .soundFinished sound)
    (hc : ∀ d, c.presentation? = some d → d.Addressable) : (s.step (.call c honest)).Orderly := by
  have hstep := h.inStep.call c hc
  have hsorted : (s.step (.call c honest)).scenes.Pairwise (· ≤ ·) := by
    simp only [scenes, step, List.map_append, ← List.append_assoc]
    exact h.sorted_append _
  cases hcloses : c.closes with
  | true =>
    simp only [step, hcloses, ↓reduceIte]
    refine ⟨hstep, fun cue hcue => ?_, fun b hb => (h.live b hb).close _, fun b hb => (h.reports b hb).close _, hsorted⟩
    rcases List.mem_append.1 hcue with hcue | hcue
    · exact (h.cues cue hcue).close _
    · obtain ⟨told, -, rfl⟩ := List.mem_map.1 hcue
      exact (Dated.present trivial).close _
  | false =>
    simp only [step, hcloses, Bool.false_eq_true, ↓reduceIte]
    refine ⟨hstep, fun cue hcue => ?_, fun b hb => (h.live b hb).mono (Presenter.Writes.call hcloses),
      fun b hb => (h.reports b hb).mono (Presenter.Writes.call hcloses), hsorted⟩
    rcases List.mem_append.1 hcue with hcue | hcue
    · exact (h.cues cue hcue).mono (Cue.Of.mono fun _ _ _ => Presenter.Writes.call hcloses)
    · obtain ⟨told, htold, rfl⟩ := List.mem_map.1 hcue
      exact .present ((h.inStep.of_call c hcloses told htold).mono fun _ _ _ => Presenter.Writes.call hcloses)

/-- the scene of a cue that is heard moves from the cues to the playbacks, or is gone -/
theorem Orderly.hear : (s.step .hear).Orderly := by
  rcases s.step_hear with hsame | ⟨scene, cue, cues, hcues, hstep⟩
  · rw [hsame]
    exact h
  · rw [hstep]
    have hhead : (scene, cue) ∈ s.cues := by rw [hcues]; exact List.mem_cons_self
    have hsorted := h.sorted
    rw [scenes, hcues] at hsorted
    have hrest : ∀ c ∈ cues, Dated s.scene c.1 (c.2.Of s.presenter.Writes) :=
      fun c hc => h.cues c (hcues ▸ List.mem_cons_of_mem _ hc)
    -- a cue that starts nothing leaves no more playbacks than there were
    have hfewer : ∀ live, live.Sublist s.live → Orderly { s with cues, live } := by
      intro live hlive
      exact ⟨h.inStep, hrest, fun b hb => h.live b (hlive.subset hb), h.reports,
        hsorted.sublist ((hlive.map _).append ((List.sublist_cons_self _ _).map _))⟩
    cases cue with
    | start entity sound name looping =>
      refine ⟨h.inStep, hrest, fun b hb => ?_, h.reports, ?_⟩
      · rcases List.mem_append.1 hb with hb | hb
        · exact h.live b hb
        · obtain rfl := List.mem_singleton.1 hb
          exact h.cues _ hhead
      · simpa only [scenes, Playback.hear, List.map_append, List.map_cons, List.map_nil, List.append_assoc,
          List.singleton_append] using hsorted
    | stop entity sound name => exact hfewer _ List.eraseP_sublist
    | update entity sound volume pitch => exact hfewer _ (List.Sublist.refl _)

theorem Orderly.finish (i : Nat) : (s.step (.finish i)).Orderly := by
  rcases s.step_finish i with hsame | ⟨b, hi, hloop, hstep⟩
  · rw [hsame]
    exact h
  · rw [hstep]
    have hlive : (s.live.eraseIdx i).Sublist s.live := List.eraseIdx_sublist _ _
    refine ⟨h.inStep, h.cues, fun b hb => h.live b (hlive.subset hb), fun b' hb' => ?_,
      h.sorted.sublist ((hlive.map _).append (List.Sublist.refl _))⟩
    rcases List.mem_append.1 hb' with hb' | hb'
    · exact h.reports b' hb'
    · obtain rfl := List.mem_singleton.1 hb'
      exact hloop ▸ h.live b' (List.mem_of_getElem? hi)

theorem Orderly.deliver (i : Nat) : (s.step (.deliver i)).Orderly := by
  rcases s.step_deliver i with hsame | ⟨b, -, hstep⟩
  · rw [hsame]
    exact h
  · rw [hstep]
    exact ⟨h.inStep.call (.soundFinished b.sound) (fun _ hd => by cases hd), h.cues, h.live,
      fun b hb => h.reports b ((List.eraseIdx_sublist _ _).subset hb), h.sorted⟩

theorem Orderly.step (m : Move) (hm : ∀ d, m.presentation? = some d → d.Addressable) : (s.step m).Orderly := by
  cases m with
  | call c honest => exact h.call c honest hm
  | hear => exact h.hear
  | finish i => exact h.finish i
  | deliver i => exact h.deliver i

end Order

end Session

end Stagecraft
