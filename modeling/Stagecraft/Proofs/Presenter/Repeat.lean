/-
Effects that repeat. A one-shot effect fires when its gate is open and moved, and a smoothed gate also moves while it stays
open. So an effect repeats without its gate closing only where smoothing holds the gate open: in the tick of the repeat, the
variable of a smoothed animation has turned, into its range or out of it.

- `repeats_only_by_turn`: two spawns of an emitter, and two starts of a sound, in any run of calls that keep the stage.
- `cannon_repeats`: a cannon whose trigger is held for two ticks after it is let go fires once more when it is let go.
-/
import Mathlib.Tactic
import Stagecraft.Presentation.Sanitized
import Stagecraft.Proofs.Channel.Turn
import Stagecraft.Proofs.Presenter.Edge

namespace Stagecraft

/-- a gate was closed between two passes, or the variable of a smoothed animation turned in the later one -/
def ClosedOrTurned (curve : Curve) (as : List (Animation Float)) (lookups : List (String → Option Float)) (i j : Nat) :
    Prop :=
  (∃ k, i < k ∧ k < j ∧ openAt ((Channel.ofAnimations curve as).gates lookups) k = false) ∨
    ∃ a ∈ as, a.smooths = true ∧ a.signalAt lookups (j - 1) ≠ a.signalAt lookups j

namespace Presenter

/-- passes of a run in which a gate fires: at one tick of it, and at a later one -/
theorem closedOrTurned_of_fires (curve : Curve) (as : List (Animation Float)) (has : ∀ a ∈ as, a.kind = .visibility)
    (first mid : List Call) (n₁ n₂ : Nat) (scope₁ scope₂ : Scope) (o₁ o₂ : Observer)
    (ha : (Channel.ofAnimations curve as).Answered
      (ticks (first ++ .tick n₁ scope₁ o₁ :: mid ++ [.tick n₂ scope₂ o₂])))
    (hearly : firesAt ((Channel.ofAnimations curve as).gates (ticks (first ++ [.tick n₁ scope₁ o₁])))
      (ticks first).length = true)
    (hlate : firesAt ((Channel.ofAnimations curve as).gates
      (ticks (first ++ .tick n₁ scope₁ o₁ :: mid ++ [.tick n₂ scope₂ o₂])))
      (ticks (first ++ .tick n₁ scope₁ o₁ :: mid)).length = true) :
    ClosedOrTurned curve as (ticks (first ++ .tick n₁ scope₁ o₁ :: mid ++ [.tick n₂ scope₂ o₂])) (ticks first).length
      (ticks (first ++ .tick n₁ scope₁ o₁ :: mid)).length := by
  have hfirst : (ticks first).length < (ticks (first ++ [.tick n₁ scope₁ o₁])).length := by
    rw [ticks_snoc, List.length_append]
    exact Nat.lt_succ_self _
  have hsplit : first ++ .tick n₁ scope₁ o₁ :: mid = (first ++ [.tick n₁ scope₁ o₁]) ++ mid := by simp
  have hlater : (ticks first).length < (ticks (first ++ .tick n₁ scope₁ o₁ :: mid)).length := by
    rw [hsplit, ticks_append, List.length_append]
    exact hfirst.trans_le (Nat.le_add_right _ _)
  refine Channel.fires_again curve as has _ ha _ _ hlater ?_ hlate
  rw [hsplit, List.append_assoc, ticks_append, Channel.firesAt_append _ _ _ _ hfirst]
  exact hearly

/-- **Effects repeat only by a turn.** From a stage just set up, in any run of calls that keep it and in which every name that
a gate of visibilities asks for has an answer: between two spawns of an emitter that does not spawn on every tick, and between
two starts of a sound that plays once and is heard in every tick, there is a tick in which its gate was closed, unless the
variable of a smoothed animation of the gate turned in the tick of the later one. So a gate without smoothing, and a gate
whose variables stay in their ranges, never repeats an effect before it has closed. -/
theorem repeats_only_by_turn (p : Presenter) (d : Presentation) (t : Nat)
    (hp : p.stage = some (Stage.build p.settings.curve d t)) (first mid : List Call)
    (hc : ∀ c ∈ first ++ mid, c.keepsStage) (n₁ n₂ : Nat) (scope₁ scope₂ : Scope) (o₁ o₂ : Observer) :
    let calls := first ++ .tick n₁ scope₁ o₁ :: mid
    let early := (p.run first).state
    let late := (p.run calls).state
    let asked := ticks (calls ++ [.tick n₂ scope₂ o₂])
    let (i, j) := ((ticks first).length, (ticks calls).length)
    (∀ k e, d.emitters[k]? = some e → e.everyTick = false → (∀ a ∈ e.active, a.kind = .visibility) →
      (Channel.ofAnimations p.settings.curve e.active).Answered asked →
      early.spawnsOf n₁ scope₁ k ≠ [] → late.spawnsOf n₂ scope₂ k ≠ [] →
      ClosedOrTurned p.settings.curve e.active asked i j) ∧
    ∀ k s, d.sounds[k]? = some s → s.looping = false → s.forced = false → (∀ a ∈ s.active, a.kind = .visibility) →
      (∀ m view listener, .tick m view listener ∈ calls ++ [.tick n₂ scope₂ o₂] → s.heardBy listener) →
      (Channel.ofAnimations p.settings.curve s.active).Answered asked →
      (early.cuesOf scope₁ o₁ k).filter Cue.isStart ≠ [] → (late.cuesOf scope₂ o₂ k).filter Cue.isStart ≠ [] →
      ClosedOrTurned p.settings.curve s.active asked i j := by
  intro calls early late asked
  have hfirst : ∀ c ∈ first, c.keepsStage := fun c hcall => hc c (List.mem_append_left _ hcall)
  have hcalls : ∀ c ∈ calls, c.keepsStage := by
    intro c hcall
    rcases List.mem_append.1 hcall with hcall | hcall
    · exact hfirst c hcall
    · rcases List.mem_cons.1 hcall with rfl | hcall
      · rfl
      · exact hc c (List.mem_append_right _ hcall)
  refine ⟨fun k e he honce hkinds ha hearly hlate => ?_,
    fun k s hs hlooping hforced hkinds hheard ha hearly hlate => ?_⟩
  · rw [p.spawnsOf_fires d t hp first hfirst n₁ scope₁ o₁ k e he honce] at hearly
    rw [p.spawnsOf_fires d t hp calls hcalls n₂ scope₂ o₂ k e he honce] at hlate
    exact closedOrTurned_of_fires _ _ hkinds first mid n₁ n₂ scope₁ scope₂ o₁ o₂ ha (ite_ne_right_iff.1 hearly).1
      (ite_ne_right_iff.1 hlate).1
  · have hheard₁ : ∀ m view listener, .tick m view listener ∈ first ++ [.tick n₁ scope₁ o₁] → s.heardBy listener := by
      intro m view listener hm
      refine hheard m view listener ?_
      simp only [calls, List.mem_append, List.mem_cons, List.not_mem_nil, or_false] at hm ⊢
      tauto
    rw [p.starts_fires d t hp first hfirst n₁ scope₁ o₁ k s hs hlooping hforced hheard₁] at hearly
    rw [p.starts_fires d t hp calls hcalls n₂ scope₂ o₂ k s hs hlooping hforced hheard] at hlate
    have hearly' := (ite_ne_right_iff.1 hearly).1
    have hlate' := (ite_ne_right_iff.1 hlate).1
    rw [Bool.and_eq_true] at hearly' hlate'
    exact closedOrTurned_of_fires _ _ hkinds first mid n₁ n₂ scope₁ scope₂ o₁ o₂ ha hearly'.1 hlate'.1

/-- a trigger that is held for two ticks after it is let go -/
def trigger : Animation Float :=
  { Animation.plain .visibility "fire" with clampMin := 1, clampMax := 1, delay := 2 }

/-- the shot and the smoke of a cannon -/
def cannon : Presentation :=
  ⟨[], [⟨"shot", false, false, false, false, [trigger], [], []⟩], [⟨"smoke", 1, false, [trigger]⟩], [], []⟩

/-- pulled for two ticks and let go in the third -/
def pulled : Scope := (Table.ofList [("fire", 1)]).scope

def letGo : Scope := (Table.ofList [("fire", 0)]).scope

/-- the smoke of the third tick, in which the trigger is let go, is excused by nothing but the turn of its variable -/
theorem repeats_only_by_turn_cannon :
    let p := ((new ⟨7⟩ {}).activate cannon 0).state
    let mid : List Call := [.soundFinished ⟨0⟩, .tick 2 pulled {}]
    let asked := ticks ([] ++ .tick 1 pulled {} :: mid ++ [.tick 3 letGo {}])
    p.stage = some (Stage.build p.settings.curve cannon 0) ∧ (∀ c ∈ [] ++ mid, c.keepsStage) ∧
      (Channel.ofAnimations p.settings.curve [trigger]).Answered asked ∧
      ClosedOrTurned p.settings.curve [trigger] asked 0 2 ∧
      trigger.signalAt asked 1 = some true ∧ trigger.signalAt asked 2 = some false := by
  intro p mid asked
  have hkeeps : ∀ c ∈ [] ++ mid, c.keepsStage := by simp [mid, Call.keepsStage]
  have hans : (Channel.ofAnimations p.settings.curve [trigger]).Answered asked := by decide +kernel
  have hkinds : ∀ a ∈ [trigger], a.kind = .visibility := by simp [trigger, Animation.plain]
  refine ⟨rfl, hkeeps, hans, ?_, by decide +kernel, by decide +kernel⟩
  exact (repeats_only_by_turn p cannon 0 rfl [] mid hkeeps 1 3 pulled letGo {} {}).1 0 _ rfl rfl hkinds hans
    (by decide +kernel) (by decide +kernel)

/-- **The gate never closed.** The cannon is accepted as it is, every name asked for has an answer, and its gate is open in
all three ticks; yet it smokes in the first and in the third, and so, when the host has finished the first shot, it fires. -/
theorem cannon_repeats :
    let p := ((new ⟨7⟩ {}).activate cannon 0).state
    let mid : List Call := [.soundFinished ⟨0⟩, .tick 2 pulled {}]
    let late := (p.run (.tick 1 pulled {} :: mid)).state
    let asked := ticks (.tick 1 pulled {} :: mid ++ [.tick 3 letGo {}])
    let gate := Channel.ofAnimations p.settings.curve [trigger]
    cannon.sanitized = cannon ∧ gate.Answered asked ∧ (gate.gates asked).map (·.result.isOpen) = [true, true, true] ∧
      (p.tick 1 pulled {}).output.spawns = [⟨⟨7⟩, ⟨0⟩, 1⟩] ∧ (late.tick 3 letGo {}).output.spawns = [⟨⟨7⟩, ⟨0⟩, 1⟩] ∧
      (p.tick 1 pulled {}).output.audio.filter Cue.isStart = [.start ⟨7⟩ ⟨0⟩ "shot" false] ∧
      (late.tick 3 letGo {}).output.audio.filter Cue.isStart = [.start ⟨7⟩ ⟨0⟩ "shot" false] := by
  intro p mid late asked gate
  exact ⟨by decide +kernel, by decide +kernel, by decide +kernel, by decide +kernel, by decide +kernel,
    by decide +kernel, by decide +kernel⟩

end Presenter

end Stagecraft
