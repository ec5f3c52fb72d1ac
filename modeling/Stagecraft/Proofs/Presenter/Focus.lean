/-
Looking at some of the parts. A focus is a choice of ids, for every kind of part; of lists of parts and of voices one sees those
with these ids. What is seen of a reading of parts one by one, or of a tick of sounds with the voices that they share, is what the
parts seen do by themselves.

- `Focus`, `within`: what is looked at, and what is left of a list when only that is seen.
- `Reading.filter_output`: parts that are read one by one.
- `LiveSound.turns_within`: sounds that take their turns with the same voices.
-/
import Mathlib.Tactic
import Stagecraft.Proofs.Presenter.Part
import Stagecraft.Proofs.Presenter.Silence

namespace Stagecraft

/-! ## What is looked at -/

/-- the entries of a list at the places looked at, each with its place, from a place on -/
def within {τ : Type} (looks : Nat → Bool) (index : Nat) (parts : List τ) : List (τ × Nat) :=
  (parts.zipIdx index).filter fun part => looks part.2

theorem within_cons {τ : Type} (looks : Nat → Bool) (index : Nat) (part : τ) (parts : List τ) :
    within looks index (part :: parts) =
      if looks index then (part, index) :: within looks (index + 1) parts else within looks (index + 1) parts := by
  rw [within, List.zipIdx_cons, List.filter_cons]
  rfl

theorem within_map {τ υ : Type} (looks : Nat → Bool) (index : Nat) (f : τ → υ) (parts : List τ) :
    within looks index (parts.map f) = (within looks index parts).map fun part => (f part.1, part.2) := by
  rw [within, List.zipIdx_map, List.filter_map]
  rfl

/-- where nothing is looked at, all lists are the same -/
theorem within_nothing {τ : Type} (index : Nat) (parts parts' : List τ) :
    within (fun _ => false) index parts = within (fun _ => false) index parts' := by
  simp [within]

/-- where one place is looked at, the entry at that place is seen -/
theorem within_place {τ : Type} (looks : Nat → Bool) (place index : Nat) (parts : List τ)
    (hlooks : ∀ k < parts.length, looks (index + k) = decide (k = place)) :
    within looks index parts = (parts[place]?.map fun part => (part, index + place)).toList := by
  induction parts generalizing place index with
  | nil => rfl
  | cons part parts ih =>
    have hfirst := hlooks 0 (Nat.succ_pos _)
    rw [Nat.add_zero] at hfirst
    rw [within_cons, hfirst]
    cases place with
    | zero =>
      have hnone : within looks (index + 1) parts = [] := by
        rw [within, List.filter_eq_nil_iff]
        rintro ⟨other, i⟩ hi
        obtain ⟨hle, hlt, -⟩ := List.mem_zipIdx hi
        obtain ⟨k, rfl⟩ := Nat.exists_eq_add_of_le hle
        have hother := hlooks (k + 1) (by rw [List.length_cons]; omega)
        rw [show index + (k + 1) = index + 1 + k by omega] at hother
        simp [hother]
      simp [hnone]
    | succ place =>
      have hrest := ih place (index + 1) fun k hk => by
        have hlater := hlooks (k + 1) (by rw [List.length_cons]; omega)
        rw [show index + (k + 1) = index + 1 + k by omega] at hlater
        rw [hlater]
        simp
      simp [hrest, show index + 1 + place = index + (place + 1) by omega]

/-- of every kind of part, the ids that are looked at -/
structure Focus where
  sound : SoundId → Bool := fun _ => false
  particle : ParticleId → Bool := fun _ => false
  light : LightId → Bool := fun _ => false
  object : ObjectId → Bool := fun _ => false

namespace Focus

variable {τ : Type} (f : Focus)

def sounds (parts : List τ) : List (τ × Nat) := within (fun k => f.sound (.ofIndex k)) 0 parts

def emitters (parts : List τ) : List (τ × Nat) := within (fun k => f.particle (.ofIndex k)) 0 parts

def lights (parts : List τ) : List (τ × Nat) := within (fun k => f.light (.ofIndex k)) 0 parts

def objects (parts : List τ) : List (τ × Nat) := within (fun k => f.object (.ofIndex k)) 0 parts

end Focus

/-! ## Parts that are read one by one -/

namespace Reading

variable {τ ω : Type} (looks : Nat → Bool)

/-- the parts seen after a reading are those seen before it, each read at its place -/
theorem within_state (read : Nat → τ → Reading τ ω) (index : Nat) (parts : List τ) :
    within looks index (all read index parts).state =
      (within looks index parts).map fun part => ((read part.2 part.1).state, part.2) := by
  induction parts generalizing index with
  | nil => rfl
  | cons part parts ih =>
    simp only [all, within_cons, ih]
    split_ifs <;> rfl

/-- what is seen of the output of a reading is what the parts seen give, as long as the others give nothing to be seen -/
theorem filter_output (read : Nat → τ → Reading τ ω) (shows : ω → Bool)
    (hshows : ∀ index part, looks index = false → (read index part).output.filter shows = []) (index : Nat)
    (parts : List τ) :
    (all read index parts).output.filter shows =
      (within looks index parts).flatMap fun part => (read part.2 part.1).output.filter shows := by
  induction parts generalizing index with
  | nil => rfl
  | cons part parts ih =>
    rw [within_cons]
    simp only [all, List.filter_append, ih]
    cases hl : looks index with
    | true => simp
    | false => simp [hshows index part hl]

end Reading

/-! ## Sounds in their turns -/

namespace Voices

variable (looks : SoundId → Bool) {id : SoundId}

theorem seen_dropOldest (hid : looks id = true) (playing : List Voice) :
    seen looks (dropOldest playing id) = dropOldest (seen looks playing) id := by
  induction playing with
  | nil => rfl
  | cons v playing ih =>
    by_cases hv : v.sound = id
    · simp [dropOldest, seen, hv, hid]
    · rw [dropOldest_cons_of_ne hv]
      simp only [seen, List.filter_cons] at ih ⊢
      split_ifs
      · rw [ih]
        simp [dropOldest, hv]
      · exact ih

theorem oldest?_seen (hid : looks id = true) (playing : List Voice) : oldest? (seen looks playing) id = oldest? playing id := by
  rw [oldest?, oldest?, seen, List.find?_filter]
  congr 1
  funext v
  by_cases hv : v.sound = id <;> simp [hv, hid]

theorem has_seen (hid : looks id = true) (playing : List Voice) : has (seen looks playing) id = has playing id := by
  rw [has, has, seen, List.any_filter]
  congr 1
  funext v
  by_cases hv : v.sound = id <;> simp [hv, hid]

/-- what is seen of the cues that stop everything are the cues that stop what is seen -/
theorem seen_stopAll (entity : EntityId) (playing : List Voice) :
    (stopAll entity playing).filter (fun c => looks c.sound) = stopAll entity (seen looks playing) := by
  rw [stopAll, List.filter_map]
  rfl

end Voices

namespace LiveSound

variable (looks : SoundId → Bool) (h : Hearing) {id : SoundId}

theorem silence_seen (hid : looks id = true) (s : Sound) (playing : List Voice) :
    silence h id s (Voices.seen looks playing) =
      (Voices.seen looks (silence h id s playing).1, (silence h id s playing).2) := by
  unfold silence
  split_ifs
  · rw [Voices.oldest?_seen looks hid]
    cases Voices.oldest? playing id with
    | none => rfl
    | some v => simp only [Voices.seen_dropOldest looks hid]
  · rfl

theorem start_seen (hid : looks id = true) (s : Sound) (playing : List Voice) :
    start h id s (Voices.seen looks playing) = (Voices.seen looks (start h id s playing).1, (start h id s playing).2) := by
  unfold start
  rw [Voices.has_seen looks hid]
  split_ifs
  · rfl
  · simp [Voices.seen, hid]

/-- a sound that is looked at takes its turn as if nothing played but what is seen -/
theorem tick_seen (hid : looks id = true) (playing : List Voice) (l : LiveSound) :
    (l.tick h id (Voices.seen looks playing)).output = (l.tick h id playing).output ∧
      (l.tick h id (Voices.seen looks playing)).state.1 = (l.tick h id playing).state.1 ∧
      (l.tick h id (Voices.seen looks playing)).state.2 = Voices.seen looks (l.tick h id playing).state.2 := by
  unfold tick
  simp only [start_seen looks h hid, silence_seen looks h hid]
  split_ifs
  · exact ⟨rfl, rfl, (Voices.seen_setLevels looks _ _ _ _).symm⟩
  · exact ⟨rfl, rfl, rfl⟩

/-- sounds in their turns, each at its own place -/
def turns (playing : List Voice) : List (LiveSound × Nat) → Reading (List (LiveSound × Nat) × List Voice) Cue
  | [] => ⟨([], playing), [], []⟩
  | (l, k) :: ls =>
    let first := l.tick h (.ofIndex k) playing
    let rest := turns first.state.2 ls
    ⟨((first.state.1, k) :: rest.state.1, rest.state.2), first.output ++ rest.output, first.asked ++ rest.asked⟩

/-- **Turns seen.** What is seen of a tick of sounds, of their cues and of the voices is what the sounds looked at do in their
turns, with nothing playing but what is seen. -/
theorem turns_within (index : Nat) (playing : List Voice) (ls : List LiveSound) :
    let seen := turns h (Voices.seen looks playing) (within (fun k => looks (.ofIndex k)) index ls)
    (tickAll h index playing ls).output.filter (fun c => looks c.sound) = seen.output ∧
      within (fun k => looks (.ofIndex k)) index (tickAll h index playing ls).state.1 = seen.state.1 ∧
      Voices.seen looks (tickAll h index playing ls).state.2 = seen.state.2 := by
  induction ls generalizing index playing with
  | nil => exact ⟨rfl, rfl, rfl⟩
  | cons l ls ih =>
    obtain ⟨houtput, hstate, hplaying⟩ := ih (index + 1) (l.tick h (.ofIndex index) playing).state.2
    simp only [tickAll, within_cons, List.filter_append, houtput, hstate, hplaying]
    cases hl : looks (.ofIndex index) with
    | true =>
      obtain ⟨htold, hsound, hvoices⟩ := tick_seen looks h hl playing l
      have hmine : (l.tick h (.ofIndex index) playing).output.filter (fun c => looks c.sound) =
          (l.tick h (.ofIndex index) playing).output := by
        rw [List.filter_eq_self]
        intro c hc
        rw [sound_of_mem_tick h _ playing l c hc, hl]
      simp only [↓reduceIte, turns, htold, hsound, hvoices, hmine, and_self]
    | false =>
      have hnone : (l.tick h (.ofIndex index) playing).output.filter (fun c => looks c.sound) = [] := by
        rw [List.filter_eq_nil_iff]
        intro c hc
        rw [sound_of_mem_tick h _ playing l c hc, hl]
        exact Bool.false_ne_true
      simp [hnone, seen_tick_of_unseen looks h hl]

end LiveSound

end Stagecraft
