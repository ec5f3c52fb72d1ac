/-
Cycle names on stage. A presentation that was sanitized has no cycle name but good ones, and the world has a value for each of
those, whatever the flags say; so nothing that presents it ever misses one, unless the entity itself answers for the name with
something that is no number.

- `resolve_layered`: a good cycle name is answered.
- `Call.Spares`: calls that set up sanitized presentations only, and leave a name to the world.
- `cycle_names_answered`: the two readings of a name, one pass over a sanitized presentation, and any number of calls.
-/
import Mathlib.Tactic
import Stagecraft.Variable.Layers
import Stagecraft.Proofs.Presentation.Sanitized
import Stagecraft.Proofs.Presenter.Asked
import Stagecraft.Proofs.Variable.Cycle

namespace Stagecraft

/-! ## Names and answers -/

/-- the variables of a sanitized presentation are good names -/
theorem Presentation.fault?_source (d : Presentation) {name : String} (h : name ∈ sources d.sanitized.animations) :
    VariableName.fault? name = none := by
  obtain ⟨a, ha, rfl⟩ := List.mem_map.1 h
  have hvalid : a.fault? = none := a.isValid_iff.1 (List.all_eq_true.1 d.all_isValid_sanitized a ha)
  exact (a.fault?_eq_none_iff.1 hvalid).1

/-- the variables that an entity itself defines have no value for a name -/
def LeavesTo (own : Option Scope) (partialTick : Float32) (name : String) : Prop :=
  (own.bind fun scope => scope partialTick name) = none

/-- a good cycle name that is left to the world is answered with a number -/
theorem resolve_layered {own : Option Scope} {q : Float32} {name : String} (hown : LeavesTo own q name) (w : World)
    (flags : Flags) (view : View) (hname : Cycle.isName name = true) (hgood : VariableName.fault? name = none) :
    (⟨view, Scope.layered own w flags q⟩ : Sampling).resolve name ≠ none := by
  obtain ⟨c, hc⟩ := (VariableName.fault?_eq_none_iff hname).1 hgood
  have hvalue : Scope.layered own w flags q name = some (c.valueAt w.tick) := by
    rw [LeavesTo] at hown
    rw [Scope.layered, hown, w.scope_cycle q hname, hc]
    rfl
  have hnumber : (c.valueAt w.tick).isNaN = false := by
    rcases c.valueAt_binary w.tick with h | h <;> rw [h] <;> decide +kernel
  change (Scope.layered own w flags q name).filter (fun v => !v.isNaN) ≠ none
  rw [hvalue, Option.filter_some, hnumber]
  exact Option.some_ne_none _

/-! ## One pass -/

namespace Presenter

variable {p : Presenter} {d : Presentation} {name : String} {own : Option Scope}

theorem source_of_stageInStep (h : p.StageInStep) (hd : p.presentation? = some d) {stage : Stage}
    (hp : p.stage = some stage) : sources stage.animations = sources d.animations := by
  rw [presentation?, hp, Option.map_some, Option.some.injEq] at hd
  rw [(h stage hp).animations, hd]

theorem not_notes_tick (h : p.StageInStep) (hd : p.presentation? = some d.sanitized) (hname : Cycle.isName name = true)
    (w : World) (flags : Flags) (n : Nat) (o : Observer) (hown : LeavesTo own 0 name) :
    let t := p.tick n (Scope.layered own w flags) o
    ¬p.unanswered.Notes t.state.unanswered t.events name := by
  intro t hnotes
  obtain ⟨stage, hp, -⟩ := Option.map_eq_some_iff.1 hd
  obtain ⟨hasked, hnone⟩ := noted_tick hp n _ o hnotes
  rw [source_of_stageInStep h hd hp] at hasked
  exact resolve_layered hown w flags .tick hname (d.fault?_source hasked) hnone

theorem not_notes_frame (h : p.StageInStep) (hd : p.presentation? = some d.sanitized) (hname : Cycle.isName name = true)
    (w : World) (flags : Flags) (q : Float32) (hown : LeavesTo own q name) :
    let t := p.frame q (Scope.layered own w flags)
    ¬p.unanswered.Notes t.state.unanswered t.events name := by
  intro t hnotes
  obtain ⟨stage, hp, -⟩ := Option.map_eq_some_iff.1 hd
  obtain ⟨hasked, hnone⟩ := noted_frame hp q _ hnotes
  rw [source_of_stageInStep h hd hp] at hasked
  exact resolve_layered hown w flags .frame hname (d.fault?_source hasked) hnone

end Presenter

/-! ## Any calls -/

/-- a call that sets up what was sanitized, or that leaves a name to the world -/
def Call.Spares (name : String) : Call → Prop
  | .activate d _ | .reload d _ => ∃ raw : Presentation, d = raw.sanitized
  | .tick _ scope _ => ∃ own w flags, scope = Scope.layered own w flags ∧ LeavesTo own 0 name
  | .frame q scope => ∃ own w flags, scope = Scope.layered own w flags ∧ LeavesTo own q name
  | .teardown | .soundFinished _ => True

namespace Presenter

variable {p : Presenter} {name : String}

/-- a stage in step with a presentation that was sanitized -/
structure Clean (p : Presenter) : Prop where
  inStep : p.StageInStep
  sanitized : ∀ d, p.presentation? = some d → ∃ raw : Presentation, d = raw.sanitized

theorem clean_new (entity : EntityId) (settings : Settings) : (new entity settings).Clean := ⟨nofun, nofun⟩

theorem Clean.call (h : p.Clean) {c : Call} (hc : c.Spares name) : (p.call c).state.Clean := by
  refine ⟨h.inStep.call c, ?_⟩
  cases c with
  | activate d t =>
    cases hp : p.stage with
    | none =>
      simp only [Presenter.call, activate, hp]
      rintro _ ⟨⟩
      exact hc
    | some stage =>
      simp only [Presenter.call, activate, hp]
      exact h.sanitized
  | reload d t =>
    rintro _ ⟨⟩
    exact hc
  | teardown => rintro _ ⟨⟩
  | tick n scope o => exact fun d hd => h.sanitized d (p.presentation?_tick n scope o ▸ hd)
  | frame q scope => exact fun d hd => h.sanitized d (p.presentation?_frame q scope ▸ hd)
  | soundFinished sound => exact h.sanitized

/-- such a call does not note the name -/
theorem Clean.not_notes (h : p.Clean) (hname : Cycle.isName name = true) {c : Call} (hc : c.Spares name) :
    ¬p.unanswered.Notes (p.call c).state.unanswered (p.call c).events name := by
  cases c with
  | activate d t =>
    simp only [Presenter.call, activate]
    split <;> simp [Unanswered.Notes]
  | reload d t => simp [Presenter.call, reload, Unanswered.Notes]
  | teardown =>
    simp only [Presenter.call, teardown]
    split <;> simp [Unanswered.Notes]
  | tick n scope o =>
    obtain ⟨own, w, flags, rfl, hown⟩ := hc
    cases hd : p.presentation? with
    | none =>
      have hp : p.stage = none := Option.map_eq_none_iff.1 hd
      simp [Presenter.call, Presenter.tick, hp, Unanswered.Notes]
    | some d =>
      obtain ⟨raw, rfl⟩ := h.sanitized d hd
      exact not_notes_tick h.inStep hd hname w flags n o hown
  | frame q scope =>
    obtain ⟨own, w, flags, rfl, hown⟩ := hc
    cases hd : p.presentation? with
    | none =>
      have hp : p.stage = none := Option.map_eq_none_iff.1 hd
      simp [Presenter.call, Presenter.frame, hp, Unanswered.Notes]
    | some d =>
      obtain ⟨raw, rfl⟩ := h.sanitized d hd
      exact not_notes_frame h.inStep hd hname w flags q hown
  | soundFinished sound => simp [Presenter.call, soundFinished, Unanswered.Notes]

/-- nor do any number of them -/
theorem Clean.run_not_notes (h : p.Clean) (hname : Cycle.isName name = true) (calls : List Call)
    (hcalls : ∀ c ∈ calls, c.Spares name) :
    ¬p.unanswered.Notes (p.run calls).state.unanswered (p.run calls).events name := by
  induction calls generalizing p with
  | nil => exact p.unanswered.not_notes_self name
  | cons c calls ih =>
    have hc := hcalls c List.mem_cons_self
    have hfirst := h.not_notes hname hc
    have hrest := ih (h.call hc) fun later hlater => hcalls later (List.mem_cons_of_mem c hlater)
    exact Unanswered.not_notes_append hfirst hrest

/-! ## Main result -/

/-- **Cycle names are answered.** Of a name that ends in `_cycle`, no fault is found if and only if a world has a value for it, at
every tick and partial tick; the value is 0 or 1, and it is computed in 64-bit words without a remainder by zero or a difference
below zero, whatever the tick. So a tick or a frame over a sanitized presentation, whatever calls led to it, does not note a cycle
name that the variables of the entity itself have no value for; and a presenter that is only ever given sanitized presentations,
and for which no entity ever answers for the name, never remembers or reports it. -/
theorem cycle_names_answered :
    (∀ name, Cycle.isName name = true → ∀ (w : World) (q : Float32),
      (VariableName.fault? name = none ↔ (w.scope q name).isSome) ∧
      ∀ v, w.scope q name = some v → (v = Float.ofNat 0 ∨ v = Float.ofNat 1) ∧
        ∃ c, Cycle.parse name = .ok c ∧ v = c.valueAt w.tick ∧ c.off ≤ Word.last 64 ∧ c.on ≤ Word.last 64 ∧
          c.total ≤ Word.last 64 ∧ ∀ tick, c.isOn? tick = some (c.isOn tick)) ∧
    (∀ entity settings p, Reachable entity settings p → ∀ d : Presentation,
      p.presentation? = some d.sanitize.state → ∀ name, Cycle.isName name = true → ∀ own w flags,
        (∀ n o, LeavesTo own 0 name → let t := p.tick n (Scope.layered own w flags) o
          ¬p.unanswered.Notes t.state.unanswered t.events name) ∧
        ∀ q, LeavesTo own q name → let t := p.frame q (Scope.layered own w flags)
          ¬p.unanswered.Notes t.state.unanswered t.events name) ∧
    ∀ entity settings calls name, Cycle.isName name = true → (∀ c ∈ calls, Call.Spares name c) →
      let t := (new entity settings).run calls
      name ∉ t.state.unanswered.seen ∧ .unanswered name ∉ t.events := by
  refine ⟨fun name hname w q => ⟨VariableName.isSome_scope_iff w q hname, fun v hv => ?_⟩,
    fun entity settings p hp d hd name hname own w flags => ⟨fun n o hown => ?_, fun q hown => ?_⟩,
    fun entity settings calls name hname hcalls => ?_⟩
  · rw [w.scope_cycle q hname] at hv
    obtain ⟨c, hc, rfl⟩ := Option.map_eq_some_iff.1 hv
    have hparse : Cycle.parse name = .ok c := by
      cases hspelled : Cycle.parse name with
      | error fault => simp [hspelled, Except.toOption] at hc
      | ok c' => simpa [hspelled, Except.toOption] using hc
    obtain ⟨hoff, hon, htotal, hpos⟩ := Cycle.parse_word hparse
    exact ⟨c.valueAt_binary w.tick, c, hparse, rfl, hoff, hon, htotal, Cycle.isOn?_eq hpos⟩
  · exact not_notes_tick hp.stageInStep hd hname w flags n o hown
  · exact not_notes_frame hp.stageInStep hd hname w flags q hown
  · have hrun := (clean_new entity settings).run_not_notes hname calls hcalls
    simpa [Unanswered.Notes, new] using hrun

/-- a lamp that blinks, and a spare one whose cycle has no on segment -/
def lighthouse : Presentation :=
  ⟨[⟨"lamp", [Animation.plain .translation "2_3_cycle"]⟩, ⟨"spare", [Animation.plain .translation "5_cycle"]⟩], [], [], [], []⟩

/-- sanitized, the spare lamp no longer asks for a cycle, and the other one is answered, by the world as well as by the keeper; as
it was, the spare lamp would have been missing its cycle -/
theorem cycle_names_answered_lighthouse :
    let night : World := { tick := 9 }
    let keeper : Scope := (Table.ofList [("wind", 4)]).scope
    let scope := Scope.layered (some keeper) night {}
    let calls : List Call := [.activate lighthouse.sanitized 0, .tick 1 scope {}, .frame 0.5 scope]
    let t := (new ⟨7⟩ {}).run calls
    Cycle.isName "5_cycle" = true ∧ VariableName.fault? "5_cycle" ≠ none ∧ night.scope 0.5 "5_cycle" = none ∧
      night.scope 0.5 "2_3_cycle" = some (Float.ofNat 1) ∧ (∃ c, Cycle.parse "2_3_cycle" = .ok c ∧ c.isOn? 9 = some (c.isOn 9)) ∧
      "5_cycle" ∉ t.state.unanswered.seen ∧ "2_3_cycle" ∉ t.state.unanswered.seen ∧
      (¬t.state.unanswered.Notes (t.state.tick 2 scope {}).state.unanswered (t.state.tick 2 scope {}).events "2_3_cycle") ∧
      "5_cycle" ∈ ((new ⟨7⟩ {}).run [.activate lighthouse 0, .tick 1 scope {}]).state.unanswered.seen := by
  intro night keeper scope calls t
  obtain ⟨hnames, hpasses, hruns⟩ := cycle_names_answered
  have hbad : Cycle.isName "5_cycle" = true := by decide +kernel
  have hgood : Cycle.isName "2_3_cycle" = true := by decide +kernel
  have hvalue : night.scope 0.5 "2_3_cycle" = some (Float.ofNat 1) := by decide +kernel
  have hfault : VariableName.fault? "5_cycle" ≠ none := by decide +kernel
  have hleft : ∀ q name, Cycle.isName name = true → LeavesTo (some keeper) q name := by
    intro q name hname
    have hother : name ≠ "wind" := by
      rintro rfl
      exact absurd hname (by decide)
    change List.lookup name [("wind", (4 : Float))] = none
    rw [List.lookup_eq_none_iff]
    simpa using hother
  have hcalls : ∀ name, Cycle.isName name = true → ∀ c ∈ calls, c.Spares name := by
    intro name hname c hc
    simp only [calls, List.mem_cons, List.not_mem_nil, or_false] at hc
    rcases hc with rfl | rfl | rfl
    · exact ⟨lighthouse, rfl⟩
    · exact ⟨some keeper, night, {}, rfl, hleft 0 name hname⟩
    · exact ⟨some keeper, night, {}, rfl, hleft 0.5 name hname⟩
  have hnone : night.scope 0.5 "5_cycle" = none := by
    have hsome := (hnames "5_cycle" hbad night 0.5).1
    exact Option.not_isSome_iff_eq_none.1 fun h => hfault (hsome.2 h)
  obtain ⟨-, c, hc, -, -, -, -, hwords⟩ := (hnames "2_3_cycle" hgood night 0.5).2 _ hvalue
  refine ⟨hbad, hfault, hnone, hvalue, ⟨c, hc, hwords 9⟩, (hruns ⟨7⟩ {} calls "5_cycle" hbad (hcalls _ hbad)).1,
    (hruns ⟨7⟩ {} calls "2_3_cycle" hgood (hcalls _ hgood)).1, ?_, by decide +kernel⟩
  exact (hpasses ⟨7⟩ {} t.state ⟨calls, rfl⟩ lighthouse (by decide +kernel) "2_3_cycle" hgood (some keeper) night {}).1 2 {}
    (hleft 0 _ hgood)

end Presenter

end Stagecraft
