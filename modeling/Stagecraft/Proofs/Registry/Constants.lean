/-
Constants over ticks and reloads. A constant is on from the moment on that a definition lists it, with one exception: the tick
that drops a one-shot drops it also when it is a constant, and does not take it off the list. So a constant is off just if it
was dropped as a one-shot and nothing has turned it on since.

- `isSet_constant`: one set of flags, after any changes.
- `constants_on_unless_swept`: the same of every entity of every registry, whose constants are those of its current definition.
-/
import Stagecraft.Proofs.Registry.Deed
import Stagecraft.Proofs.Registry.Isolation

namespace Stagecraft

namespace Flags

/-- dropped as a one-shot at the end of a tick, and not turned on since -/
def Swept (name : String) : List Change → Prop :=
  Since (fun before c => c = .clearOneShots ∧ Pending name before) fun c => !c.turnsOn name

theorem isSet_constant (changes : List Change) (name : String)
    (hconstant : (({} : Flags).run changes).isConstant name = true) :
    (({} : Flags).run changes).isSet name = true ↔ ¬Swept name changes := by
  induction changes using List.reverseRecOn with
  | nil => exact absurd hconstant Bool.false_ne_true
  | append_singleton changes c ih =>
    rw [run_snoc, isConstant_change] at hconstant
    rw [run_snoc, isSet_change, Swept, since_snoc, ← Swept, ← isPending_run]
    cases c with
    | declare n => simpa [Change.turnsOn] using ih hconstant
    | set n | setOneShot n =>
      by_cases hn : name = n
      · simp [Change.turnsOn, hn]
      · simpa [Change.turnsOn, hn] using ih hconstant
    | clear n | toggle n =>
      -- what is cleared or toggled is no constant any more
      obtain ⟨hbefore, hn⟩ : _ ∧ name ≠ n := by simpa using hconstant
      simpa [Change.turnsOn, hn] using ih hbefore
    | replaceConstants names =>
      have hn : name ∈ names := by simpa using hconstant
      simp [Change.turnsOn, hn]
    | clearOneShots =>
      simp [Change.turnsOn, ih hconstant]
      tauto

end Flags

/-- what leaves a constant of the current definition a constant -/
def Deed.spares (name : String) : Deed → Bool
  | .install _ => false
  | .host c => !c.lacks name && !c.handles name
  | .tick => true

/-- the definition came last, and the host has not taken the name off the constants since -/
def Installed (d : Presentation) (name : String) : List Deed → Prop :=
  Since (fun _ a => a = .install d) (·.spares name)

theorem Installed.listed {d : Presentation} {name : String} {deeds : List Deed} (h : Installed d name deeds)
    (hname : name ∈ d.constants) : Flags.Listed name (deeds.map Deed.change) := by
  obtain ⟨before, a, after, rfl, rfl, hspares⟩ := h
  refine ⟨before.map Deed.change, Deed.change (.install d), after.map Deed.change, by simp, ?_, ?_⟩
  · simpa [Deed.change, Flags.Change.lists] using hname
  · intro c hc
    obtain ⟨b, hb, rfl⟩ := List.mem_map.1 hc
    have hb := hspares b hb
    cases b with
    | install d' => exact absurd hb Bool.false_ne_true
    | host c => exact hb
    | tick => rfl

namespace Registry

/-- **Constants.** A name that is a constant is on, and reads 1, just if it was not dropped as a one-shot, or was turned on
again since. So it is with every active entity of every registry, whatever was requested of it: at every point of its life, a
tick among them, the constants of its current definition that the host has neither cleared nor toggled nor replaced are
constants, and those of them that were not dropped as one-shots are on. -/
theorem constants_on_unless_swept (name : String) :
    (∀ changes : List Flags.Change, (({} : Flags).run changes).isConstant name = true →
      ((({} : Flags).run changes).isSet name = true ↔ ¬Flags.Swept name changes) ∧
        ((({} : Flags).run changes).value? name = some (Float.ofNat 1) ↔ ¬Flags.Swept name changes)) ∧
    ∀ (settings : Settings) (requests : List Request) (world : WorldId), ∀ l ∈ lives world requests,
      ∀ deeds, l.Deeds deeds → ∃ e, ((new settings).run requests).state.get? world l.entity = some e ∧
        ∀ d, name ∈ d.constants → Installed d name deeds →
          e.flags.isConstant name = true ∧
            (e.flags.isSet name = true ↔ ¬Flags.Swept name (deeds.map Deed.change)) ∧
            (e.flags.value? name = some (Float.ofNat 1) ↔ ¬Flags.Swept name (deeds.map Deed.change)) := by
  refine ⟨fun changes hconstant => ?_, fun settings requests world l hl deeds hdeeds => ?_⟩
  · have hset := Flags.isSet_constant changes name hconstant
    exact ⟨hset, (Flags.value?_eq_one _ name).trans hset⟩
  · have hsolo : l.solo settings ∈ ((new settings).run requests).state.solos world := by
      rw [solos_run]
      exact List.mem_map_of_mem hl
    obtain ⟨e, he, -, hsame⟩ := exists_get? (distinct_run settings requests world) hsolo
    have hflags : e.flags = ({} : Flags).run (deeds.map Deed.change) :=
      (congrArg Solo.flags hsame).trans (l.flags_solo hdeeds settings)
    refine ⟨e, ?_, fun d hname hinstalled => ?_⟩
    · rw [← l.entity_solo settings]
      exact he
    · rw [hflags]
      have hconstant := (Flags.isConstant_run _ name).2 (hinstalled.listed hname)
      have hset := Flags.isSet_constant _ name hconstant
      exact ⟨hconstant, hset, (Flags.value?_eq_one _ name).trans hset⟩

/-- a vehicle that always has a siren -/
def patrol : Presentation := ⟨[], [], [], [], ["siren"]⟩

/-- what happens to the siren of a vehicle: it is used as a one-shot, and the vehicle is reloaded after the tick -/
def sirenRequests : List Request :=
  [.activate ⟨1⟩ ⟨7⟩ patrol 0, .updateFlags ⟨1⟩ ⟨7⟩ (Flags.run · [.setOneShot "siren", .declare "horn"]),
    .tick ⟨1⟩ 1 still, .reload ⟨1⟩ ⟨7⟩ patrol 2, .tick ⟨1⟩ 2 still]

/-- the same as deeds -/
def sirenDeeds : List Deed :=
  [.install patrol, .host (.setOneShot "siren"), .host (.declare "horn"), .tick, .install patrol, .tick]

/-- a siren that the host turns on again is on, and so is one that a reload lists again -/
theorem constants_on_unless_swept_siren :
    let changes : List Flags.Change := [.replaceConstants ["siren"], .setOneShot "siren", .clearOneShots, .set "siren"]
    ((({} : Flags).run changes).isConstant "siren" = true ∧ ¬Flags.Swept "siren" changes) ∧
      ∃ l ∈ lives ⟨1⟩ sirenRequests, l.Deeds sirenDeeds ∧ "siren" ∈ patrol.constants ∧
        Installed patrol "siren" sirenDeeds ∧
        ∃ e, ((new {}).run sirenRequests).state.get? ⟨1⟩ l.entity = some e ∧ e.flags.isConstant "siren" = true ∧
          (e.flags.value? "siren" = some (Float.ofNat 1) ↔ ¬Flags.Swept "siren" (sirenDeeds.map Deed.change)) := by
  intro changes
  have hconstant : (({} : Flags).run changes).isConstant "siren" = true := by decide
  obtain ⟨hflags, hentities⟩ := constants_on_unless_swept "siren"
  have hswept := (hflags changes hconstant).1.1 (by decide)
  let concerns : List Concern := [.flags (Flags.run · [.setOneShot "siren", .declare "horn"]), .tick 1 none {} {},
    .reload patrol 2, .tick 2 none {} {}]
  have hlives : lives ⟨1⟩ sirenRequests = [⟨⟨7⟩, patrol, 0, concerns⟩] := rfl
  have hmem : ⟨⟨7⟩, patrol, 0, concerns⟩ ∈ lives ⟨1⟩ sirenRequests := hlives ▸ List.mem_singleton_self _
  have hdid : Did concerns sirenDeeds.tail :=
    .cons (.flags [.setOneShot "siren", .declare "horn"]) (.cons (.tick ..) (.cons (.reload ..) (.cons (.tick ..) .nil)))
  have hinstalled : Installed patrol "siren" sirenDeeds := ⟨sirenDeeds.take 4, _, [.tick], rfl, rfl, by decide⟩
  have hname : "siren" ∈ patrol.constants := by decide
  obtain ⟨e, he, hcurrent⟩ := hentities {} sirenRequests ⟨1⟩ _ hmem sirenDeeds ⟨_, hdid, rfl⟩
  obtain ⟨hlisted, -, hvalue⟩ := hcurrent patrol hname hinstalled
  exact ⟨⟨hconstant, hswept⟩, _, hmem, ⟨_, hdid, rfl⟩, hname, hinstalled, e, he, hlisted, hvalue⟩

/-- but a siren that was used as a one-shot is off after the tick and a constant still, and so is one that was used as a
one-shot before it became a constant; in a registry it stays off until the next reload, though the host never cleared or
toggled it -/
theorem siren_off_while_constant :
    let late := ({} : Flags).run [.replaceConstants ["siren"], .setOneShot "siren", .clearOneShots]
    let early := ({} : Flags).run [.setOneShot "siren", .replaceConstants ["siren"], .clearOneShots]
    let seen := ((new {}).run (sirenRequests.take 3)).state.get? ⟨1⟩ ⟨7⟩
    (late.isConstant "siren" = true ∧ late.isSet "siren" = false ∧ late.value? "siren" = some (Float.ofNat 0)) ∧
      (early.isConstant "siren" = true ∧ early.isSet "siren" = false) ∧
      "siren" ∈ patrol.constants ∧ seen.map (·.flags.isConstant "siren") = some true ∧
      seen.map (·.flags.isSet "siren") = some false := by
  decide +kernel

end Registry

end Stagecraft
