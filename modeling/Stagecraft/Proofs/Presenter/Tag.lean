/-
Whose outputs they are. Whatever a presenter asks of the host names its own entity, so the outputs of several entities can be
told apart after they were joined.

- `tick_entity`, `frame_entity`, `stopAll_entity`: what one call asks for.
- `TickOutput.about_concat`, `FrameOutput.about_concat`: of outputs joined, those about one entity are its own.
-/
import Mathlib.Tactic
import Stagecraft.Presenter.Tick

namespace Stagecraft

/-! ## Joined outputs -/

/-- of tagged lists joined in order, as long as no two have the same tag, what carries a tag is the list of that tag -/
theorem filter_flatMap_of_tagged {α β κ : Type} [DecidableEq κ] (out : α → List β) (key : α → κ) (tag : β → κ)
    {xs : List α} (htag : ∀ x ∈ xs, ∀ b ∈ out x, tag b = key x) (hkeys : (xs.map key).Nodup) {x : α} (hx : x ∈ xs) :
    (xs.flatMap out).filter (tag · = key x) = out x := by
  induction xs with
  | nil => simp at hx
  | cons y xs ih =>
    rw [List.map_cons, List.nodup_cons] at hkeys
    have hlater := fun z hz => htag z (List.mem_cons_of_mem y hz)
    rw [List.flatMap_cons, List.filter_append]
    rcases List.mem_cons.1 hx with rfl | hx
    · have hmine : (out x).filter (tag · = key x) = out x := by
        rw [List.filter_eq_self]
        intro b hb
        simpa using htag x List.mem_cons_self b hb
      have hothers : (xs.flatMap out).filter (tag · = key x) = [] := by
        rw [List.filter_eq_nil_iff]
        intro b hb
        obtain ⟨z, hz, hbz⟩ := List.mem_flatMap.1 hb
        rw [hlater z hz b hbz, decide_eq_true_eq]
        intro hsame
        exact hkeys.1 (hsame ▸ List.mem_map_of_mem hz)
      rw [hmine, hothers, List.append_nil]
    · have hfirst : (out y).filter (tag · = key x) = [] := by
        rw [List.filter_eq_nil_iff]
        intro b hb
        rw [htag y List.mem_cons_self b hb, decide_eq_true_eq]
        intro hsame
        exact hkeys.1 (hsame ▸ List.mem_map_of_mem hx)
      rw [hfirst, List.nil_append, ih hlater hkeys.2 hx]

/-- the entity that a cue is about -/
def Cue.entity : Cue → EntityId
  | .start entity _ _ _ => entity
  | .stop entity _ _ => entity
  | .update entity _ _ _ => entity

namespace TickOutput

/-- what an output asks for one entity -/
def about (o : TickOutput) (entity : EntityId) : TickOutput :=
  ⟨o.audio.filter (·.entity = entity), o.spawns.filter (·.entity = entity)⟩

/-- an output that asks for nothing but one entity -/
structure IsOf (entity : EntityId) (o : TickOutput) : Prop where
  audio : ∀ c ∈ o.audio, c.entity = entity
  spawns : ∀ s ∈ o.spawns, s.entity = entity

theorem IsOf.about_self {entity : EntityId} {o : TickOutput} (h : o.IsOf entity) : o.about entity = o := by
  have haudio : o.audio.filter (·.entity = entity) = o.audio := List.filter_eq_self.2 fun c hc => by simpa using h.audio c hc
  have hspawns : o.spawns.filter (·.entity = entity) = o.spawns :=
    List.filter_eq_self.2 fun s hs => by simpa using h.spawns s hs
  rw [about, haudio, hspawns]

/-- it asks for no other entity -/
theorem IsOf.about_other {entity other : EntityId} {o : TickOutput} (h : o.IsOf entity) (hne : entity ≠ other) :
    o.about other = {} := by
  have haudio : o.audio.filter (·.entity = other) = [] :=
    List.filter_eq_nil_iff.2 fun c hc => by simpa [h.audio c hc] using hne
  have hspawns : o.spawns.filter (·.entity = other) = [] :=
    List.filter_eq_nil_iff.2 fun s hs => by simpa [h.spawns s hs] using hne
  rw [about, haudio, hspawns]

/-- outputs one after the other -/
def concat (os : List TickOutput) : TickOutput := ⟨os.flatMap (·.audio), os.flatMap (·.spawns)⟩

theorem foldr_append (os : List TickOutput) : os.foldr (· ++ ·) {} = concat os := by
  induction os with
  | nil => rfl
  | cons o os ih =>
    rw [List.foldr_cons, ih]
    rfl

theorem about_concat {α : Type} (out : α → TickOutput) (key : α → EntityId) {xs : List α}
    (hout : ∀ x ∈ xs, (out x).IsOf (key x)) (hkeys : (xs.map key).Nodup) {x : α} (hx : x ∈ xs) :
    (concat (xs.map out)).about (key x) = out x := by
  simp only [concat, about, List.flatMap_map]
  rw [filter_flatMap_of_tagged (fun x => (out x).audio) key Cue.entity (fun x hx => (hout x hx).audio) hkeys hx,
    filter_flatMap_of_tagged (fun x => (out x).spawns) key Spawn.entity (fun x hx => (hout x hx).spawns) hkeys hx]

end TickOutput

namespace FrameOutput

/-- what an output shows of one entity -/
def about (o : FrameOutput) (entity : EntityId) : FrameOutput :=
  ⟨o.lights.filter (·.entity = entity), o.poses.filter (·.entity = entity)⟩

/-- an output that shows nothing but one entity -/
structure IsOf (entity : EntityId) (o : FrameOutput) : Prop where
  lights : ∀ l ∈ o.lights, l.entity = entity
  poses : ∀ m ∈ o.poses, m.entity = entity

/-- outputs one after the other -/
def concat (os : List FrameOutput) : FrameOutput := ⟨os.flatMap (·.lights), os.flatMap (·.poses)⟩

theorem foldr_append (os : List FrameOutput) : os.foldr (· ++ ·) {} = concat os := by
  induction os with
  | nil => rfl
  | cons o os ih =>
    rw [List.foldr_cons, ih]
    rfl

theorem about_concat {α : Type} (out : α → FrameOutput) (key : α → EntityId) {xs : List α}
    (hout : ∀ x ∈ xs, (out x).IsOf (key x)) (hkeys : (xs.map key).Nodup) {x : α} (hx : x ∈ xs) :
    (concat (xs.map out)).about (key x) = out x := by
  simp only [concat, about, List.flatMap_map]
  rw [filter_flatMap_of_tagged (fun x => (out x).lights) key LightOutput.entity (fun x hx => (hout x hx).lights) hkeys hx,
    filter_flatMap_of_tagged (fun x => (out x).poses) key ObjectOutput.entity (fun x hx => (hout x hx).poses) hkeys hx]

end FrameOutput

/-! ## The outputs of a presenter -/

theorem LiveSound.entity_of_mem_tick (h : Hearing) (id : SoundId) (playing : List Voice) (l : LiveSound) :
    ∀ c ∈ (l.tick h id playing).output, c.entity = h.entity := by
  unfold tick start silence
  simp only
  split_ifs
  · simp [Cue.entity]
  · simp [Cue.entity]
  · cases Voices.oldest? playing id <;> simp [Cue.entity]
  · simp

theorem LiveSound.entity_of_mem_tickAll (h : Hearing) (index : Nat) (playing : List Voice) (ls : List LiveSound) :
    ∀ c ∈ (tickAll h index playing ls).output, c.entity = h.entity := by
  induction ls generalizing index playing with
  | nil => simp [tickAll]
  | cons l ls ih =>
    intro c hc
    rcases List.mem_append.1 hc with hc | hc
    · exact entity_of_mem_tick h _ playing l c hc
    · exact ih _ _ c hc

theorem LiveEmitter.entity_of_mem_tick (s : Sampling) (entity : EntityId) (n index : Nat) (l : LiveEmitter) :
    ∀ spawn ∈ (l.tick s entity n index).output, spawn.entity = entity := by
  unfold tick
  simp only
  split_ifs <;> simp

/-- what every part of a reading gives, the whole gives -/
theorem Reading.forall_mem_all {τ ω : Type} {read : Nat → τ → Reading τ ω} {P : ω → Prop}
    (hread : ∀ index part, ∀ o ∈ (read index part).output, P o) (index : Nat) (parts : List τ) :
    ∀ o ∈ (Reading.all read index parts).output, P o := by
  induction parts generalizing index with
  | nil => simp [Reading.all]
  | cons part parts ih =>
    intro o ho
    rcases List.mem_append.1 ho with ho | ho
    · exact hread _ _ o ho
    · exact ih _ o ho

theorem Voices.stopAll_entity (entity : EntityId) (playing : List Voice) :
    ({ audio := stopAll entity playing } : TickOutput).IsOf entity := by
  refine ⟨?_, by simp⟩
  simp [stopAll, Cue.entity]

namespace Presenter

theorem tick_entity (p : Presenter) (n : Nat) (scope : Scope) (o : Observer) :
    (p.tick n scope o).output.IsOf p.entity := by
  unfold tick
  split
  · exact ⟨by simp, by simp⟩
  · exact ⟨LiveSound.entity_of_mem_tickAll _ _ _ _,
      Reading.forall_mem_all (fun index l => LiveEmitter.entity_of_mem_tick _ p.entity n index l) _ _⟩

theorem frame_entity (p : Presenter) (q : Float32) (scope : Scope) : (p.frame q scope).output.IsOf p.entity := by
  unfold frame
  split
  · exact ⟨by simp, by simp⟩
  · exact ⟨List.forall_mem_map.2 fun _ _ => rfl, List.forall_mem_map.2 fun _ _ => rfl⟩

end Presenter

end Stagecraft
