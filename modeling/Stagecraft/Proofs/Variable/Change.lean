/-
What changes do to one flag. A flag is on, a pending one-shot, and a constant, or not, and a change says of each what becomes
of it, from what it was. So each of the three follows the history of the changes.

- `isSet_change`, `isPending_change`, `isConstant_change`: one change.
- `isPending_run`, `isConstant_run`: a pending one-shot and a constant, told by the history alone.
-/
import Stagecraft.Proofs.History
import Stagecraft.Variable.Change

namespace Stagecraft.Flags

/-- whether a flag is on as a one-shot that has not been dropped yet -/
def isPending (f : Flags) (name : String) : Bool := f.oneShot.contains name

/-! ## One change -/

section OneChange

variable (f : Flags) (name : String)

/-- constants turned on one after the other: they are on and listed, and no one-shot changes -/
theorem setConstant_all (names : List String) (f : Flags) :
    (∀ n, n ∈ (names.foldl setConstant f).on ↔ n ∈ names ∨ n ∈ f.on) ∧
      (∀ n, n ∈ (names.foldl setConstant f).constants ↔ n ∈ names ∨ n ∈ f.constants) ∧
      (names.foldl setConstant f).oneShot = f.oneShot := by
  induction names generalizing f with
  | nil => simp
  | cons first names ih =>
    obtain ⟨hon, hconstants, hpending⟩ := ih (f.setConstant first)
    refine ⟨fun n => ?_, fun n => ?_, hpending⟩
    · rw [List.foldl_cons, hon]
      simp only [setConstant, set, declare, List.mem_insert_iff, List.mem_cons]
      tauto
    · rw [List.foldl_cons, hconstants]
      simp only [setConstant, set, declare, List.mem_insert_iff, List.mem_cons]
      tauto

theorem isSet_clear (n : String) : (f.clear n).isSet name = (f.isSet name && name ≠ n) := by
  rw [Bool.eq_iff_iff]
  simp [isSet, clear]

theorem isSet_set (n : String) : (f.set n).isSet name = (f.isSet name || name = n) := by
  rw [Bool.eq_iff_iff]
  simp [isSet, set, declare, or_comm]

theorem isSet_replaceConstants (names : List String) :
    (f.replaceConstants names).isSet name = (names.contains name || f.isSet name && !f.isConstant name) := by
  obtain ⟨hon, hconstants, -⟩ := setConstant_all names { f with constants := [] }
  rw [Bool.eq_iff_iff]
  simp only [isSet, isConstant, replaceConstants, List.contains_iff_mem, List.mem_filter, hon, hconstants,
    Bool.or_eq_true, Bool.and_eq_true, Bool.not_eq_true', List.not_mem_nil, or_false]
  cases f.constants.contains name <;> simp [or_comm]
  tauto

/-- what a change does to a flag being on; the constants that a new list lacks go off, and so do pending one-shots at the end
of a tick -/
theorem isSet_change (c : Change) : (f.change c).isSet name = match c with
    | .declare _ => f.isSet name
    | .set n | .setOneShot n => f.isSet name || name = n
    | .clear n => f.isSet name && name ≠ n
    | .toggle n => f.isSet name != decide (name = n)
    | .replaceConstants names => names.contains name || f.isSet name && !f.isConstant name
    | .clearOneShots => f.isSet name && !f.isPending name := by
  cases c with
  | declare n => rfl
  | set n | setOneShot n => exact f.isSet_set name n
  | clear n => exact f.isSet_clear name n
  | toggle n =>
    simp only [change, toggle, apply_ite (isSet · name), isSet_set, isSet_clear]
    by_cases hn : name = n
    · subst hn
      cases f.isSet name <;> simp
    · simp [hn]
  | replaceConstants names => exact f.isSet_replaceConstants name names
  | clearOneShots =>
    rw [Bool.eq_iff_iff]
    simp [change, clearOneShots, isSet, isPending]

theorem isPending_change (c : Change) : (f.change c).isPending name = match c with
    | .setOneShot n => f.isPending name || name = n
    | .clear n | .toggle n => f.isPending name && name ≠ n
    | .clearOneShots => false
    | _ => f.isPending name := by
  cases c with
  | declare n | set n => rfl
  | setOneShot n =>
    rw [Bool.eq_iff_iff]
    simp [change, setOneShot, set, declare, isPending, or_comm]
  | clear n =>
    rw [Bool.eq_iff_iff]
    simp [change, clear, isPending]
  | toggle n =>
    rw [Bool.eq_iff_iff]
    cases h : f.isSet n <;> simp [change, toggle, h, clear, set, declare, isPending]
  | replaceConstants names =>
    simp only [isPending, change, replaceConstants, (setConstant_all names { f with constants := [] }).2.2]
  | clearOneShots => rfl

theorem isConstant_change (c : Change) : (f.change c).isConstant name = match c with
    | .clear n | .toggle n => f.isConstant name && name ≠ n
    | .replaceConstants names => names.contains name
    | _ => f.isConstant name := by
  cases c with
  | declare n | set n | setOneShot n | clearOneShots => rfl
  | clear n =>
    rw [Bool.eq_iff_iff]
    simp [change, clear, isConstant]
  | toggle n =>
    rw [Bool.eq_iff_iff]
    cases h : f.isSet n <;> simp [change, toggle, h, clear, set, declare, isConstant]
  | replaceConstants names =>
    rw [Bool.eq_iff_iff]
    simp [change, replaceConstants, isConstant, (setConstant_all names { f with constants := [] }).2.1]

/-- a flag reads 1 just if it is on -/
theorem value?_eq_one : f.value? name = some (Float.ofNat 1) ↔ f.isSet name = true := by
  unfold value?
  split_ifs with hset hdeclared
  · exact ⟨fun _ => hset, fun _ => rfl⟩
  · exact ⟨fun h => absurd h (by decide), fun h => absurd h hset⟩
  · exact ⟨fun h => absurd h (by simp), fun h => absurd h hset⟩

end OneChange

/-! ## Histories of changes -/

theorem run_snoc (f : Flags) (changes : List Change) (c : Change) : f.run (changes ++ [c]) = (f.run changes).change c := by
  simp [run]

theorem run_append (f : Flags) (first rest : List Change) : f.run (first ++ rest) = (f.run first).run rest :=
  List.foldl_append

namespace Change

/-- a list of constants that has the name -/
def lists (name : String) : Change → Bool
  | .replaceConstants names => names.contains name
  | _ => false

/-- a list of constants that lacks the name -/
def lacks (name : String) : Change → Bool
  | .replaceConstants names => !names.contains name
  | _ => false

/-- what the host does to the flag to turn it off or over -/
def handles (name : String) : Change → Bool
  | .clear n | .toggle n => name = n
  | _ => false

def marks (name : String) : Change → Bool
  | .setOneShot n => name = n
  | _ => false

/-- what turns a flag on whatever it was -/
def turnsOn (name : String) : Change → Bool
  | .set n | .setOneShot n => name = n
  | .replaceConstants names => names.contains name
  | _ => false

end Change

/-- a constant: on the last list of constants, and not cleared or toggled since -/
def Listed (name : String) : List Change → Prop :=
  Since (fun _ c => c.lists name) fun c => !c.lacks name && !c.handles name

/-- a one-shot that has not been cleared, toggled or dropped since -/
def Pending (name : String) : List Change → Prop :=
  Since (fun _ c => c.marks name) fun c => !c.handles name && c ≠ .clearOneShots

theorem isConstant_run (changes : List Change) (name : String) :
    (({} : Flags).run changes).isConstant name = true ↔ Listed name changes := by
  induction changes using List.reverseRecOn with
  | nil => exact iff_of_false Bool.false_ne_true not_since_nil
  | append_singleton changes c ih =>
    rw [run_snoc, isConstant_change, Listed, since_snoc, ← Listed, ← ih]
    cases c <;> simp [Change.lists, Change.lacks, Change.handles]

theorem isPending_run (changes : List Change) (name : String) :
    (({} : Flags).run changes).isPending name = true ↔ Pending name changes := by
  induction changes using List.reverseRecOn with
  | nil => exact iff_of_false Bool.false_ne_true not_since_nil
  | append_singleton changes c ih =>
    rw [run_snoc, isPending_change, Pending, since_snoc, ← Pending, ← ih]
    cases c <;> simp [Change.marks, Change.handles, or_comm]

end Stagecraft.Flags
