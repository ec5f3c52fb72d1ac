/-
Runs of a presenter. What every call keeps, a run keeps (`run_keeps`): the entity and the settings are those of
`Presenter.new` for good, and so is whether names without a value are reported.
-/
import Mathlib.Tactic
import Stagecraft.Presenter.Call
import Stagecraft.Proofs.Presenter.Unanswered

namespace Stagecraft.Presenter

/-! ## Runs -/

theorem run_cons (p : Presenter) (c : Call) (calls : List Call) :
    p.run (c :: calls) = ⟨((p.call c).state.run calls).state,
      (p.call c).output :: ((p.call c).state.run calls).output,
      (p.call c).events ++ ((p.call c).state.run calls).events⟩ := rfl

theorem run_append_state (p : Presenter) (first rest : List Call) :
    (p.run (first ++ rest)).state = ((p.run first).state.run rest).state := by
  induction first generalizing p with
  | nil => rfl
  | cons c first ih => simp only [List.cons_append, run_cons, ih]

theorem run_snoc_state (p : Presenter) (calls : List Call) (c : Call) :
    (p.run (calls ++ [c])).state = ((p.run calls).state.call c).state := by
  rw [run_append_state]
  rfl

/-! ## What calls keep -/

theorem call_entity (p : Presenter) (c : Call) : (p.call c).state.entity = p.entity := by
  cases c with
  | activate d t => simp only [call, activate]; split <;> rfl
  | tick n scope o => simp only [call, tick]; split <;> rfl
  | frame q scope => simp only [call, frame]; split <;> rfl
  | _ => rfl

theorem call_settings (p : Presenter) (c : Call) : (p.call c).state.settings = p.settings := by
  cases c with
  | activate d t => simp only [call, activate]; split <;> rfl
  | tick n scope o => simp only [call, tick]; split <;> rfl
  | frame q scope => simp only [call, frame]; split <;> rfl
  | _ => rfl

theorem call_enabled (p : Presenter) (c : Call) : (p.call c).state.unanswered.enabled = p.unanswered.enabled := by
  cases c with
  | activate d t => simp only [call, activate]; split <;> rfl
  | tick n scope o =>
    simp only [call, tick]
    split
    · rfl
    · exact p.unanswered.noteAll_enabled _
  | frame q scope =>
    simp only [call, frame]
    split
    · rfl
    · exact p.unanswered.noteAll_enabled _
  | _ => rfl

/-- what each of some calls keeps, the run of them keeps -/
theorem run_keeps {P : Presenter → Prop} {p : Presenter} (h : P p) {calls : List Call}
    (hP : ∀ q, ∀ c ∈ calls, P q → P (q.call c).state) : P (p.run calls).state := by
  induction calls generalizing p with
  | nil => exact h
  | cons c calls ih => exact ih (hP p c List.mem_cons_self h) fun q later hlater => hP q later (List.mem_cons_of_mem c hlater)

theorem run_entity (p : Presenter) (calls : List Call) : (p.run calls).state.entity = p.entity :=
  run_keeps (P := fun q => q.entity = p.entity) rfl fun q c _ h => (q.call_entity c).trans h

/-! ## Reachable states -/

/-- the states that the calls of a host lead to -/
def Reachable (entity : EntityId) (settings : Settings) (p : Presenter) : Prop :=
  ∃ calls, p = ((new entity settings).run calls).state

theorem Reachable.entity_eq {entity : EntityId} {settings : Settings} {p : Presenter}
    (h : Reachable entity settings p) : p.entity = entity := by
  obtain ⟨calls, rfl⟩ := h
  exact run_entity _ calls

theorem Reachable.settings_eq {entity : EntityId} {settings : Settings} {p : Presenter}
    (h : Reachable entity settings p) : p.settings = settings := by
  obtain ⟨calls, rfl⟩ := h
  exact run_keeps (P := fun q => q.settings = settings) rfl fun q c _ h => (q.call_settings c).trans h

theorem Reachable.enabled_eq {entity : EntityId} {settings : Settings} {p : Presenter}
    (h : Reachable entity settings p) : p.unanswered.enabled = settings.logUnknown := by
  obtain ⟨calls, rfl⟩ := h
  exact run_keeps (P := fun q => q.unanswered.enabled = settings.logUnknown) rfl fun q c _ h => (q.call_enabled c).trans h

end Stagecraft.Presenter
