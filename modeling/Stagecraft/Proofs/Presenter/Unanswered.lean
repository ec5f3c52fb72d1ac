/-
Names without a value, over a list of them: which are remembered afterwards, and what is reported.
-/
import Mathlib.Tactic
import Stagecraft.Presenter.Unanswered

namespace Stagecraft.Unanswered

theorem mem_seen_note (u : Unanswered) (name other : String) :
    other ∈ (u.note name).state.seen ↔ other ∈ u.seen ∨ other = name := by
  by_cases h : name ∈ u.seen
  · simp only [note, List.contains_eq_mem, h, decide_true, ↓reduceIte]
    constructor
    · exact Or.inl
    · rintro (hother | rfl)
      · exact hother
      · exact h
  · simp [note, h]

/-- the names met afterwards are those met before and the new ones -/
theorem mem_seen_noteAll (u : Unanswered) (names : List String) (name : String) :
    name ∈ (u.noteAll names).state.seen ↔ name ∈ u.seen ∨ name ∈ names := by
  induction names generalizing u with
  | nil => simp [noteAll]
  | cons first names ih =>
    simp only [noteAll, ih, mem_seen_note, List.mem_cons]
    tauto

/-- names met before are neither noted nor reported again -/
theorem noteAll_of_seen (u : Unanswered) (names : List String) (h : ∀ name ∈ names, name ∈ u.seen) :
    u.noteAll names = ⟨u, (), []⟩ := by
  induction names with
  | nil => rfl
  | cons first names ih =>
    have hfirst : u.note first = ⟨u, false, []⟩ := by simp [note, h first List.mem_cons_self]
    have hrest := ih fun name hname => h name (List.mem_cons_of_mem _ hname)
    simp [noteAll, hfirst, hrest]

/-- meeting names turns reporting neither on nor off -/
theorem noteAll_enabled (u : Unanswered) (names : List String) : (u.noteAll names).state.enabled = u.enabled := by
  induction names generalizing u with
  | nil => rfl
  | cons first names ih =>
    simp only [noteAll, ih]
    unfold note
    split_ifs <;> rfl

/-- only names are reported, and as warnings -/
theorem severity_noteAll (u : Unanswered) (names : List String) :
    ∀ e ∈ (u.noteAll names).events, e.severity = .warn := by
  induction names generalizing u with
  | nil => simp [noteAll]
  | cons first names ih =>
    intro e he
    rcases List.mem_append.1 he with he | he
    · unfold note at he
      split_ifs at he <;> simp_all [Event.severity]
    · exact ih _ e he

/-- and only the names that are met -/
theorem mem_of_reported (u : Unanswered) (names : List String) {name : String}
    (h : .unanswered name ∈ (u.noteAll names).events) : name ∈ names := by
  induction names generalizing u with
  | nil => cases h
  | cons first names ih =>
    rcases List.mem_append.1 h with h | h
    · have hfirst : name = first := by
        unfold note at h
        split_ifs at h
        · cases h
        · simpa using h
        · cases h
      exact hfirst ▸ List.mem_cons_self
    · exact List.mem_cons_of_mem _ (ih _ h)

/-- names met in two lots are names met at once -/
theorem noteAll_append (u : Unanswered) (names more : List String) :
    (u.noteAll (names ++ more)).state = ((u.noteAll names).state.noteAll more).state ∧
      (u.noteAll (names ++ more)).events = (u.noteAll names).events ++ ((u.noteAll names).state.noteAll more).events := by
  induction names generalizing u with
  | nil => exact ⟨rfl, rfl⟩
  | cons first names ih =>
    obtain ⟨hstate, hevents⟩ := ih (u.note first).state
    simp only [List.cons_append, noteAll, hstate, hevents, List.append_assoc, and_self]

theorem nodup_note {u : Unanswered} (h : u.seen.Nodup) (name : String) : (u.note name).state.seen.Nodup := by
  by_cases hseen : name ∈ u.seen
  · simpa [note, hseen] using h
  · simpa [note, hseen] using h.concat hseen

/-- no name is remembered twice -/
theorem nodup_noteAll {u : Unanswered} (h : u.seen.Nodup) (names : List String) : (u.noteAll names).state.seen.Nodup := by
  induction names generalizing u with
  | nil => exact h
  | cons first names ih => exact ih (nodup_note h first)

/-- from nothing on, each name is remembered where it came first -/
theorem seen_noteAll {u : Unanswered} (h : u.seen = []) (names : List String) :
    (u.noteAll names).state.seen = names.eraseDups := by
  induction names using List.reverseRecOn with
  | nil => exact h
  | append_singleton names name ih =>
    have hmem : name ∈ (u.noteAll names).state.seen ↔ name ∈ names := by simp [mem_seen_noteAll, h]
    rw [(u.noteAll_append names [name]).1, List.eraseDups_append, ← ih]
    by_cases hseen : name ∈ names <;> simp [noteAll, note, hmem, hseen, List.removeAll, List.eraseDups_cons]

/-- what was reported is what is remembered -/
theorem reported_noteAll {u : Unanswered} (h : u.enabled = true) (names : List String) :
    u.seen.map .unanswered ++ (u.noteAll names).events = (u.noteAll names).state.seen.map .unanswered := by
  induction names generalizing u with
  | nil => exact List.append_nil _
  | cons first names ih =>
    have hrest := ih (u := (u.note first).state) ((u.noteAll_enabled [first]).trans h)
    have hfirst : u.seen.map .unanswered ++ (u.note first).events = (u.note first).state.seen.map .unanswered := by
      unfold note
      split_ifs <;> simp
    rw [noteAll, ← List.append_assoc, hfirst, hrest]

/-- and with reporting off nothing is -/
theorem silent_noteAll {u : Unanswered} (h : u.enabled = false) (names : List String) : (u.noteAll names).events = [] := by
  induction names generalizing u with
  | nil => rfl
  | cons first names ih =>
    have hrest := ih (u := (u.note first).state) ((u.noteAll_enabled [first]).trans h)
    have hfirst : (u.note first).events = [] := by
      unfold note
      split_ifs <;> simp_all
    rw [noteAll, hfirst, hrest, List.append_nil]

/-- the same names are remembered whether or not they are reported -/
theorem noteAll_with_enabled (u : Unanswered) (b : Bool) (names : List String) :
    ({ u with enabled := b }.noteAll names).state = { (u.noteAll names).state with enabled := b } := by
  induction names generalizing u with
  | nil => rfl
  | cons first names ih =>
    have hfirst : ({ u with enabled := b }.note first).state = { (u.note first).state with enabled := b } := by
      unfold note
      split_ifs <;> rfl
    simp only [noteAll, hfirst, ih]

/-- a name that is remembered afterwards and was not before, or that is reported -/
def Notes (before after : Unanswered) (events : List Event) (name : String) : Prop :=
  name ∈ after.seen ∧ name ∉ before.seen ∨ .unanswered name ∈ events

theorem notes_noteAll (u : Unanswered) (names : List String) {name : String}
    (h : u.Notes (u.noteAll names).state (u.noteAll names).events name) : name ∈ names := by
  rcases h with ⟨hafter, hbefore⟩ | hreported
  · exact ((u.mem_seen_noteAll names name).1 hafter).resolve_left hbefore
  · exact u.mem_of_reported names hreported

theorem not_notes_self (u : Unanswered) (name : String) : ¬u.Notes u [] name := by
  simp [Notes]

/-- what is noted in two steps is noted in one of them -/
theorem not_notes_append {before between after : Unanswered} {first rest : List Event} {name : String}
    (hfirst : ¬before.Notes between first name) (hrest : ¬between.Notes after rest name) :
    ¬before.Notes after (first ++ rest) name := by
  simp only [Notes, List.mem_append] at *
  tauto

end Stagecraft.Unanswered
