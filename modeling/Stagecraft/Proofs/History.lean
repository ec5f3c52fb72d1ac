/-
Histories: finite lists of what happened, the latest last. `Since begins keeps` says that something in a history began a
state, given all that was before it, and that nothing after it ended the state. A condition on all that happened is so told by
the last thing that happened and the history before it (`since_snoc`), which is what a run of steps is told by as well.
-/
import Mathlib.Tactic

namespace Stagecraft

variable {α : Type}

/-- begun at some point of a history, and kept ever since -/
def Since (begins : List α → α → Prop) (keeps : α → Prop) (history : List α) : Prop :=
  ∃ before a after, history = before ++ a :: after ∧ begins before a ∧ ∀ b ∈ after, keeps b

variable {begins : List α → α → Prop} {keeps : α → Prop}

theorem not_since_nil : ¬Since begins keeps [] := by
  rintro ⟨before, a, after, h, -⟩
  simp at h

/-- what holds was begun -/
theorem Since.begun {history : List α} (h : Since begins keeps history) : ∃ before, ∃ a ∈ history, begins before a := by
  obtain ⟨before, a, after, rfl, hbegins, -⟩ := h
  exact ⟨before, a, by simp, hbegins⟩

theorem Since.mono {begins' : List α → α → Prop} {history : List α} (h : Since begins keeps history)
    (himp : ∀ before a after, history = before ++ a :: after → begins before a → begins' before a) :
    Since begins' keeps history := by
  obtain ⟨before, a, after, hhistory, hbegins, hkeeps⟩ := h
  exact ⟨before, a, after, hhistory, himp before a after hhistory hbegins, hkeeps⟩

/-- after one more thing, a state holds if that began it, or if it held and that keeps it -/
theorem since_snoc (history : List α) (a : α) :
    Since begins keeps (history ++ [a]) ↔ begins history a ∨ Since begins keeps history ∧ keeps a := by
  constructor
  · rintro ⟨before, b, after, h, hbegins, hkeeps⟩
    rcases after.eq_nil_or_concat with rfl | ⟨between, c, rfl⟩
    · obtain ⟨rfl, hab⟩ := List.append_inj' h rfl
      cases hab
      exact .inl hbegins
    · have hlast : history ++ [a] = (before ++ b :: between) ++ [c] := by simpa using h
      obtain ⟨rfl, hac⟩ := List.append_inj' hlast rfl
      cases hac
      exact .inr ⟨⟨before, b, between, rfl, hbegins, fun x hx => hkeeps x (by simp [hx])⟩, hkeeps a (by simp)⟩
  · rintro (hbegins | ⟨⟨before, b, after, rfl, hbegins, hkeeps⟩, ha⟩)
    · exact ⟨history, a, [], rfl, hbegins, by simp⟩
    · refine ⟨before, b, after ++ [a], by simp, hbegins, fun x hx => ?_⟩
      rcases List.mem_append.1 hx with hx | hx
      · exact hkeeps x hx
      · rw [List.mem_singleton.1 hx]
        exact ha

/-- what neither begins nor ends a state leaves it as it was -/
theorem since_append (history more : List α) (h : ∀ b ∈ more, (∀ before, ¬begins before b) ∧ keeps b) :
    Since begins keeps (history ++ more) ↔ Since begins keeps history := by
  induction more using List.reverseRecOn with
  | nil => rw [List.append_nil]
  | append_singleton more a ih =>
    obtain ⟨hbegins, hkeeps⟩ := h a (by simp)
    rw [← List.append_assoc, since_snoc, ih fun b hb => h b (by simp [hb])]
    simp [hbegins, hkeeps]

end Stagecraft
