/-
What is done to the flags of an entity, and by whom: its definition lists the constants, the host changes flags one by one, and
every tick drops the one-shots when it ends. Nothing else that concerns an entity touches its flags.

A request carries whatever the host does to the flags as one function; `Concern.Does` tells it by the changes that make it up.

- `flags_step`, `flags_run`: the flags follow the deeds.
- `Life.flags_solo`: the flags of an active entity, from its activation on.
-/
import Stagecraft.Proofs.Registry.Solo
import Stagecraft.Proofs.Variable.Change

namespace Stagecraft

/-- one thing done to the flags of an entity -/
inductive Deed where
  /-- by its definition, when it comes with an activation or a reload -/
  | install (presentation : Presentation)
  | host (c : Flags.Change)
  /-- by a tick, when it ends -/
  | tick

/-- what is done, as a change -/
def Deed.change : Deed → Flags.Change
  | .install d => .replaceConstants d.constants
  | .host c => c
  | .tick => .clearOneShots

/-- what a concern does to the flags of the entity -/
inductive Concern.Does : Concern → List Deed → Prop
  | reload (d : Presentation) (n : Nat) : Does (.reload d n) [.install d]
  | flags (changes : List Flags.Change) : Does (.flags (Flags.run · changes)) (changes.map .host)
  | soundFinished (sound : SoundId) : Does (.soundFinished sound) []
  | tick (n : Nat) (own : Option Scope) (around : World) (o : Observer) : Does (.tick n own around o) [.tick]
  | frame (q : Float32) (own : Option Scope) (around : World) : Does (.frame q own around) []
  | leave : Does .leave []

/-- what concerns do, one after the other -/
inductive Did : List Concern → List Deed → Prop
  | nil : Did [] []
  | cons {c : Concern} {concerns : List Concern} {first rest : List Deed} (h : c.Does first) (hrest : Did concerns rest) :
    Did (c :: concerns) (first ++ rest)

theorem Did.append {a b : List Concern} {first rest : List Deed} (h : Did a first) (hrest : Did b rest) :
    Did (a ++ b) (first ++ rest) := by
  induction h with
  | nil => exact hrest
  | cons hc _ ih =>
    rw [List.append_assoc]
    exact .cons hc ih

theorem Did.split {a b : List Concern} {deeds : List Deed} (h : Did (a ++ b) deeds) :
    ∃ first rest, deeds = first ++ rest ∧ Did a first ∧ Did b rest := by
  induction a generalizing deeds with
  | nil => exact ⟨[], deeds, rfl, .nil, h⟩
  | cons c a ih =>
    cases h with
    | cons hc hrest =>
      obtain ⟨first, rest, rfl, ha, hb⟩ := ih hrest
      exact ⟨_, rest, (List.append_assoc _ _ _).symm, .cons hc ha, hb⟩

namespace Solo

theorem flags_step (s : Solo) {c : Concern} {deeds : List Deed} (h : c.Does deeds) :
    (s.step c).state.flags = s.flags.run (deeds.map Deed.change) := by
  cases h with
  | flags changes =>
    rw [List.map_map]
    exact congrArg s.flags.run (List.map_id changes).symm
  | _ => rfl

theorem flags_run (s : Solo) {concerns : List Concern} {deeds : List Deed} (h : Did concerns deeds) :
    (s.run concerns).state.flags = s.flags.run (deeds.map Deed.change) := by
  induction h generalizing s with
  | nil => rfl
  | cons hc _ ih =>
    rw [List.map_append, Flags.run_append, ← s.flags_step hc]
    exact ih _

end Solo

/-- what was done to the flags of an entity since its activation, and by it -/
def Life.Deeds (l : Life) (deeds : List Deed) : Prop := ∃ later, Did l.concerns later ∧ deeds = .install l.presentation :: later

/-- the flags of an entity follow from what was done to them in its life -/
theorem Life.flags_solo {l : Life} {deeds : List Deed} (h : l.Deeds deeds) (settings : Settings) :
    (l.solo settings).flags = ({} : Flags).run (deeds.map Deed.change) := by
  obtain ⟨later, hdid, rfl⟩ := h
  exact Solo.flags_run _ hdid

end Stagecraft
