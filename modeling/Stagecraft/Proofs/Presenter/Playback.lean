/-
The playbacks of an audio host, counted by sound and name. The host starts a playback for every start and ends the oldest of its
sound and name for every stop; so how many there are after some cues depends on nothing but how many there were.

- `Playback.countP_hear`: one cue and the count.
- `Cue.tallyAll_mono`, `Cue.tallyAll_succ`: cues in order, with fewer playbacks to begin with.
- `tallyAll_le`: playbacks and the voices of a presenter, cue by cue.
-/
import Mathlib.Tactic
import Stagecraft.Proofs.Presenter.Mixer

namespace Stagecraft

/-! ## Playbacks -/

/-- a sound at the audio host -/
structure Playback where
  sound : SoundId
  name : String
  looping : Bool
  /-- the scene in which its start was given -/
  scene : Nat
deriving DecidableEq

/-- what the host knows a playback by -/
def Playback.label (b : Playback) : SoundId × String := (b.sound, b.name)

def Voice.label (v : Voice) : SoundId × String := (v.sound, v.name)

@[simp] theorem Playback.label_mk (sound : SoundId) (name : String) (looping : Bool) (scene : Nat) :
    label ⟨sound, name, looping, scene⟩ = (sound, name) := rfl

@[simp] theorem Voice.label_mk (sound : SoundId) (name : String) (looping : Bool) (volume pitch : Float32) :
    label ⟨sound, name, looping, volume, pitch⟩ = (sound, name) := rfl

/-- what is live after a cue of a scene: a stop ends the oldest playback of its sound and name, if there is one -/
def Playback.hear (scene : Nat) (live : List Playback) : Cue → List Playback
  | .start _ sound name looping => live ++ [⟨sound, name, looping, scene⟩]
  | .stop _ sound name => live.eraseP (·.label = (sound, name))
  | .update .. => live

/-! ## Counting -/

/-- what is found first is what is erased -/
theorem countP_eraseP_of_find? {τ : Type} {p q : τ → Bool} {xs : List τ} {x : τ} (h : xs.find? p = some x) :
    xs.countP q = (xs.eraseP p).countP q + if q x then 1 else 0 := by
  induction xs with
  | nil => cases h
  | cons y xs ih =>
    rw [List.find?_cons] at h
    cases hy : p y with
    | true =>
      simp only [hy, Option.some.injEq] at h
      subst h
      rw [List.eraseP_cons_of_pos hy, List.countP_cons]
    | false =>
      simp only [hy] at h
      rw [List.eraseP_cons_of_neg (by simp [hy]), List.countP_cons, List.countP_cons, ih h]
      omega

theorem eraseP_of_find?_none {τ : Type} {p : τ → Bool} {xs : List τ} (h : xs.find? p = none) : xs.eraseP p = xs :=
  List.eraseP_of_forall_not fun x hx => List.find?_eq_none.1 h x hx

theorem countP_eraseIdx {τ : Type} (q : τ → Bool) {xs : List τ} {i : Nat} {x : τ} (h : xs[i]? = some x) :
    xs.countP q = (xs.eraseIdx i).countP q + if q x then 1 else 0 := by
  obtain ⟨hi, rfl⟩ := List.getElem?_eq_some_iff.1 h
  rw [← (List.getElem_cons_eraseIdx_perm hi).countP_eq q, List.countP_cons]

namespace Cue

/-- how many playbacks of a label there are once a cue is heard -/
def tally (label : SoundId × String) (n : Nat) : Cue → Nat
  | .start _ sound name _ => if (sound, name) = label then n + 1 else n
  | .stop _ sound name => if (sound, name) = label then n - 1 else n
  | .update .. => n

def Stops (label : SoundId × String) : Cue → Prop
  | .stop _ sound name => (sound, name) = label
  | _ => False

/-- how many there are once cues are heard in order -/
def tallyAll (label : SoundId × String) (n : Nat) (cues : List (Nat × Cue)) : Nat :=
  cues.foldl (fun n c => c.2.tally label n) n

variable (label : SoundId × String)

theorem tally_mono {n m : Nat} (h : n ≤ m) (cue : Cue) : cue.tally label n ≤ cue.tally label m := by
  cases cue with
  | start entity sound name looping =>
    simp only [tally]
    split_ifs <;> omega
  | stop entity sound name =>
    simp only [tally]
    split_ifs <;> omega
  | update entity sound volume pitch => exact h

theorem tallyAll_mono {n m : Nat} (h : n ≤ m) (cues : List (Nat × Cue)) :
    tallyAll label n cues ≤ tallyAll label m cues := by
  induction cues generalizing n m with
  | nil => exact h
  | cons c cues ih => exact ih (tally_mono label h c.2)

/-- one more stays one more, as long as there is no stop for it -/
theorem tallyAll_succ (n : Nat) (cues : List (Nat × Cue)) (hnone : ∀ c ∈ cues, ¬ c.2.Stops label) :
    tallyAll label (n + 1) cues = tallyAll label n cues + 1 := by
  induction cues generalizing n with
  | nil => rfl
  | cons c cues ih =>
    have hfirst : c.2.tally label (n + 1) = c.2.tally label n + 1 := by
      have hstop := hnone c List.mem_cons_self
      cases hc : c.2 with
      | start entity sound name looping =>
        simp only [tally]
        split_ifs <;> rfl
      | stop entity sound name =>
        rw [hc] at hstop
        simp only [Stops] at hstop
        simp only [tally, hstop, ↓reduceIte]
      | update entity sound volume pitch => rfl
    change tallyAll label (c.2.tally label (n + 1)) cues = tallyAll label (c.2.tally label n) cues + 1
    rw [hfirst]
    exact ih _ fun later hlater => hnone later (List.mem_cons_of_mem _ hlater)

end Cue

theorem Playback.countP_hear (label : SoundId × String) (scene : Nat) (live : List Playback) (cue : Cue) :
    (hear scene live cue).countP (·.label = label) = cue.tally label (live.countP (·.label = label)) := by
  cases cue with
  | start entity sound name looping =>
    simp only [hear, Cue.tally, List.countP_append, List.countP_singleton, decide_eq_true_eq]
    by_cases hstarts : (sound, name) = label <;> simp [hstarts]
  | stop entity sound name =>
    simp only [hear, Cue.tally]
    cases hfind : live.find? (·.label = (sound, name)) with
    | none =>
      rw [eraseP_of_find?_none hfind]
      split_ifs with heq
      · have hzero : live.countP (·.label = label) = 0 := by
          rw [List.countP_eq_zero, ← heq]
          exact fun b hb => List.find?_eq_none.1 hfind b hb
        rw [hzero]
      · rfl
    | some b =>
      have hb : b.label = (sound, name) := by simpa using List.find?_some hfind
      have hcount := countP_eraseP_of_find? (q := (·.label = label)) hfind
      simp only [hb, decide_eq_true_eq] at hcount
      rw [hcount]
      split_ifs <;> omega
  | update entity sound volume pitch => rfl

theorem Playback.forall_scene_hear {live : List Playback} {scene now : Nat} (hlive : ∀ b ∈ live, b.scene < now)
    (hscene : scene < now) (cue : Cue) : ∀ b ∈ hear scene live cue, b.scene < now := by
  intro b hb
  cases cue with
  | start entity sound name looping =>
    rcases List.mem_append.1 hb with hb | hb
    · exact hlive b hb
    · obtain rfl := List.mem_singleton.1 hb
      exact hscene
  | stop entity sound name => exact hlive b (List.mem_of_mem_eraseP hb)
  | update entity sound volume pitch => exact hlive b hb

/-- a cue adds nothing to what nothing of its scene counts for -/
theorem Playback.countP_hear_le (q : Playback → Bool) (scene : Nat) (hq : ∀ b : Playback, b.scene = scene → q b = false)
    (live : List Playback) (cue : Cue) : (hear scene live cue).countP q ≤ live.countP q := by
  cases cue with
  | start entity sound name looping =>
    simp only [hear, List.countP_append, List.countP_singleton, hq ⟨sound, name, looping, scene⟩ rfl]
    exact le_rfl
  | stop entity sound name => exact List.eraseP_sublist.countP_le
  | update entity sound volume pitch => exact le_rfl

open Mixer in
/-- **Cues and voices.** When cues lead from voices to voices, the tally follows the voices. Where it lags behind them by what is
owed, there may be no stop of what is owed, as a stop of nothing lets it catch up. -/
theorem tallyAll_le {label : SoundId × String} (scene : Nat) {cues : List Cue} {playing after : List Voice}
    (h : Leads playing (cues.map .cue) after) {n owed spare : Nat} (howed : ∀ cue ∈ cues, cue.Stops label → owed = 0)
    (hn : n + owed ≤ playing.countP (·.label = label) + spare) :
    Cue.tallyAll label n (cues.map fun cue => (scene, cue)) + owed ≤ after.countP (·.label = label) + spare := by
  induction cues generalizing playing n with
  | nil =>
    obtain rfl : playing = after := h.heard
    exact hn
  | cons cue cues ih =>
    refine ih h.tail (fun later hlater => howed later (List.mem_cons_of_mem _ hlater)) ?_
    have hfits := h.fits [] (.cue cue) _ rfl
    cases cue with
    | start entity sound name looping =>
      simp only [hear, Cue.tally, List.countP_append, List.countP_singleton, decide_eq_true_eq]
      by_cases hstarts : (sound, name) = label
      · simp only [Voice.label_mk, hstarts, ↓reduceIte]
        omega
      · simp only [Voice.label_mk, hstarts, ↓reduceIte]
        omega
    | update entity sound volume pitch =>
      have hsame : (fun v : Voice => decide ((if v.sound = sound then { v with volume, pitch } else v).label = label)) =
          fun v => decide (v.label = label) := by
        funext v
        split_ifs <;> rfl
      simp only [hear, Cue.tally, List.countP_map, Function.comp_def, hsame]
      exact hn
    | stop entity sound name =>
      obtain ⟨v, hv, rfl⟩ := hfits
      rw [List.foldl_nil] at hv
      have hlabel : v.label = (sound, v.name) := by
        rw [Voice.label, show v.sound = sound by simpa using List.find?_some hv]
      have hcount := countP_eraseP_of_find? (q := (·.label = label)) hv
      simp only [hlabel, decide_eq_true_eq] at hcount
      simp only [hear, Cue.tally]
      by_cases hstops : (sound, v.name) = label
      · have hnothing : owed = 0 := howed _ List.mem_cons_self hstops
        rw [if_pos hstops] at hcount ⊢
        omega
      · rw [if_neg hstops] at hcount ⊢
        omega

end Stagecraft
