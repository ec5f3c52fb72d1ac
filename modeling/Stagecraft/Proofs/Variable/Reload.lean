/-
Flags of the host over reloads. A new list of constants leaves alone every flag that is not a constant. A flag that the
host turned on and that is a constant as well goes off with the first list that lacks it, whoever turned it on first; what
the host did before that list came is not remembered.

- `isSet_since`: a flag since it was turned on, if it is neither cleared, toggled nor swept away at the end of a tick.
- `isSet_unhandled`: a flag that the host neither clears, toggles nor uses as a one-shot.
- `stays_on_unless_dropped`: such a flag from the first time on that the host turned it on.
-/
import Stagecraft.Proofs.Variable.Change

namespace Stagecraft.Flags

/-- a list of constants that lacks the name came while it was one, and nothing has turned the flag on since -/
def Dropped (name : String) : List Change → Prop :=
  Since (fun before c => c.lacks name ∧ Listed name before) fun c => !c.turnsOn name

/-- the host leaves a flag to its constants, apart from turning it on for good -/
def Unhandled (name : String) (changes : List Change) : Prop :=
  ∀ c ∈ changes, c.handles name = false ∧ c.marks name = false

instance (name : String) (changes : List Change) : Decidable (Unhandled name changes) :=
  inferInstanceAs (Decidable (∀ c ∈ changes, _ ∧ _))

/-- no end of a tick finds the flag pending -/
def Unswept (name : String) (before after : List Change) : Prop :=
  ∀ first rest, after = first ++ .clearOneShots :: rest → ¬Pending name (before ++ first)

theorem not_pending_of_unmarked {name : String} {changes : List Change} (h : ∀ c ∈ changes, c.marks name = false) :
    ¬Pending name changes := by
  intro hpending
  obtain ⟨-, c, hc, hmarks⟩ := hpending.begun
  rw [h c hc] at hmarks
  exact Bool.false_ne_true hmarks

theorem not_dropped_of_turnsOn {name : String} {c : Change} (h : c.turnsOn name = true) (before : List Change) :
    ¬Dropped name (before ++ [c]) := by
  rw [Dropped, since_snoc]
  cases c <;> simp_all [Change.turnsOn, Change.lacks]

/-- a flag that nothing turns on or over is off -/
theorem isSet_of_not_turnsOn {name : String} {changes : List Change}
    (h : ∀ c ∈ changes, c.turnsOn name = false ∧ c.handles name = false) : (({} : Flags).run changes).isSet name = false := by
  induction changes using List.reverseRecOn with
  | nil => rfl
  | append_singleton changes c ih =>
    have hbefore := ih fun c' hc' => h c' (List.mem_append_left _ hc')
    obtain ⟨hturnsOn, hhandles⟩ := h c (by simp)
    rw [run_snoc, isSet_change, hbefore]
    cases c <;> simp_all [Change.turnsOn, Change.handles]

/-- **Since it was turned on.** A flag that was turned on, and that is neither cleared, toggled nor swept away afterwards, is on
unless it was dropped. -/
theorem isSet_since {name : String} {a : Change} (ha : a.turnsOn name = true) (before after : List Change)
    (hhandles : ∀ c ∈ after, c.handles name = false) (hswept : Unswept name (before ++ [a]) after) :
    (({} : Flags).run (before ++ a :: after)).isSet name = true ↔ ¬Dropped name (before ++ a :: after) := by
  induction after using List.reverseRecOn with
  | nil =>
    refine iff_of_true ?_ (not_dropped_of_turnsOn ha before)
    rw [run_snoc, isSet_change]
    cases a <;> simp_all [Change.turnsOn]
  | append_singleton after c ih =>
    have hbefore := ih (fun c' hc' => hhandles c' (List.mem_append_left _ hc')) fun first rest hafter =>
      hswept first (rest ++ [c]) (by simp [hafter])
    have hc : c.handles name = false := hhandles c (by simp)
    rw [← List.cons_append, ← List.append_assoc, run_snoc, isSet_change, Dropped, since_snoc, ← Dropped, ← isConstant_run]
    cases c with
    | declare n => simpa [Change.turnsOn, Change.lacks] using hbefore
    | set n | setOneShot n =>
      by_cases hn : name = n
      · simp [Change.turnsOn, Change.lacks, hn]
      · simpa [Change.turnsOn, Change.lacks, hn] using hbefore
    | clear n | toggle n =>
      have hn : name ≠ n := by simpa [Change.handles] using hc
      simpa [Change.turnsOn, Change.lacks, hn] using hbefore
    | replaceConstants names =>
      by_cases hn : name ∈ names
      · simp [Change.turnsOn, Change.lacks, hn]
      · simp [Change.turnsOn, Change.lacks, hn, hbefore]
        tauto
    | clearOneShots =>
      have hidle : (({} : Flags).run (before ++ a :: after)).isPending name = false := by
        rw [← Bool.not_eq_true, isPending_run]
        simpa using hswept after [] rfl
      simpa [Change.turnsOn, Change.lacks, hidle] using hbefore

/-- **Left alone.** A flag that the host at most turns on is on if it was ever turned on and was not dropped since. -/
theorem isSet_unhandled {name : String} {changes : List Change} (h : Unhandled name changes) :
    (({} : Flags).run changes).isSet name = true ↔ (∃ c ∈ changes, c.turnsOn name) ∧ ¬Dropped name changes := by
  by_cases hon : ∃ c ∈ changes, c.turnsOn name = true
  · obtain ⟨a, hmem, ha⟩ := hon
    rw [and_iff_right ⟨a, hmem, ha⟩]
    obtain ⟨before, after, rfl⟩ := List.append_of_mem hmem
    refine isSet_since ha before after (fun c hc => (h c (by simp [hc])).1) ?_
    rintro first rest rfl
    exact not_pending_of_unmarked fun c hc => (h c (by simp at hc ⊢; tauto)).2
  · refine iff_of_false ?_ fun hand => hon hand.1
    rw [isSet_of_not_turnsOn fun c hc => ⟨?_, (h c hc).1⟩]
    · exact Bool.false_ne_true
    · rw [← Bool.not_eq_true]
      exact fun hturnsOn => hon ⟨c, hc, hturnsOn⟩

/-- **Over reloads.** From the first time that the host turns a flag on, which it never clears, toggles or uses as a one-shot,
the flag is on at every point, whatever lists of constants come before, after or in between, unless it was dropped: unless the
last that was said of it is that a list of constants lacks it, which came while it was a constant. -/
theorem stays_on_unless_dropped (name : String) (before after : List Change)
    (hhost : Unhandled name (before ++ .set name :: after)) :
    (({} : Flags).run (before ++ .set name :: after)).isSet name = true ↔
      ¬Dropped name (before ++ .set name :: after) := by
  rw [isSet_unhandled hhost, and_iff_right_iff_imp]
  intro _
  exact ⟨.set name, by simp, by simp [Change.turnsOn]⟩

/-- a horn that the host turns on while it is a constant, and again after the reload that drops it, outlives the next one -/
theorem stays_on_unless_dropped_horn :
    let changes : List Change := [.replaceConstants ["horn"], .set "horn", .replaceConstants ["siren"], .set "horn",
      .setOneShot "clicked", .clearOneShots, .replaceConstants []]
    Unhandled "horn" changes ∧ (({} : Flags).run changes).isSet "horn" = true ∧ ¬Dropped "horn" changes := by
  intro changes
  have hhost : Unhandled "horn" changes := by decide
  have hset : (({} : Flags).run changes).isSet "horn" = true := by decide
  have hiff := stays_on_unless_dropped "horn" [.replaceConstants ["horn"]]
    [.replaceConstants ["siren"], .set "horn", .setOneShot "clicked", .clearOneShots, .replaceConstants []] hhost
  exact ⟨hhost, hset, hiff.1 hset⟩

/-- but a horn that the host turned on while it was a constant is off after the reload that drops it, and so is one that became
a constant later -/
theorem horn_lost_on_reload :
    let late : List Change := [.replaceConstants ["horn"], .set "horn", .replaceConstants []]
    let early : List Change := [.set "horn", .replaceConstants ["horn"], .replaceConstants []]
    (Unhandled "horn" late ∧ .set "horn" ∈ late ∧ (({} : Flags).run late).isSet "horn" = false) ∧
      (Unhandled "horn" early ∧ .set "horn" ∈ early ∧ (({} : Flags).run early).isSet "horn" = false) := by
  decide

end Stagecraft.Flags
