/-
Flags that are used as one-shots and as nothing else: they are on just as long as the one-shot is pending. And what is known of
any flag: what was ever on is declared for good, so it reads 0 and not nothing when it is off.

- `isSet_of_onlyMarked`: on is pending.
- `isDeclared_run`: what is declared stays so.
- `sound_run`, `value?_eq`: what is on, pending or a constant is declared, and the declared flags are those that have a value.
-/
import Stagecraft.Proofs.Variable.Change

namespace Stagecraft.Flags

/-- what turns a flag on as a one-shot at most -/
def Change.onlyMarks (name : String) : Change → Bool
  | .set n | .toggle n => name ≠ n
  | .replaceConstants names => !names.contains name
  | _ => true

theorem isSet_of_onlyMarked {name : String} {changes : List Change} (h : ∀ c ∈ changes, c.onlyMarks name = true) :
    (({} : Flags).run changes).isSet name = true ↔ Pending name changes := by
  suffices hboth : (({} : Flags).run changes).isConstant name = false ∧
      (({} : Flags).run changes).isSet name = (({} : Flags).run changes).isPending name by
    rw [hboth.2, isPending_run]
  induction changes using List.reverseRecOn with
  | nil => exact ⟨rfl, rfl⟩
  | append_singleton changes c ih =>
    obtain ⟨hconstant, hset⟩ := ih fun c' hc' => h c' (List.mem_append_left _ hc')
    have hc := h c (by simp)
    rw [run_snoc, isConstant_change, isSet_change, isPending_change, hset, hconstant]
    cases c <;> simp_all [Change.onlyMarks]

/-! ## Declared for good -/

theorem isDeclared_set (f : Flags) (n name : String) : (f.set n).isDeclared name = (f.isDeclared name || name = n) := by
  rw [Bool.eq_iff_iff]
  simp [isDeclared, set, declare, or_comm]

theorem isDeclared_setConstant_all (names : List String) (f : Flags) (name : String) :
    (names.foldl setConstant f).isDeclared name = (f.isDeclared name || names.contains name) := by
  induction names generalizing f with
  | nil => simp
  | cons first names ih =>
    have hfirst : (f.setConstant first).isDeclared name = (f.isDeclared name || name = first) := f.isDeclared_set first name
    rw [List.foldl_cons, ih, hfirst, List.contains_cons, Bool.or_assoc]
    rfl

theorem isDeclared_change (f : Flags) (name : String) (c : Change) : (f.change c).isDeclared name = match c with
    | .declare n | .set n | .setOneShot n => f.isDeclared name || name = n
    | .toggle n => f.isDeclared name || (!f.isSet n && name = n)
    | .replaceConstants names => f.isDeclared name || names.contains name
    | .clear _ | .clearOneShots => f.isDeclared name := by
  cases c with
  | declare n | set n | setOneShot n => exact f.isDeclared_set n name
  | clear n | clearOneShots => rfl
  | toggle n =>
    simp only [change, toggle]
    split_ifs with hset
    · simp [hset, clear, isDeclared]
    · rw [isDeclared_set]
      simp [hset, clear, isDeclared]
  | replaceConstants names => exact isDeclared_setConstant_all names { f with constants := [] } name

/-- what is declared stays declared -/
theorem isDeclared_run (f : Flags) (name : String) (changes : List Change) (h : f.isDeclared name = true) :
    (f.run changes).isDeclared name = true := by
  induction changes using List.reverseRecOn with
  | nil => exact h
  | append_singleton changes c ih =>
    rw [run_snoc, isDeclared_change]
    cases c <;> simp [ih]

/-- a flag is declared if it is anything else -/
structure Sound (f : Flags) (name : String) : Prop where
  isSet : f.isSet name = true → f.isDeclared name = true
  isPending : f.isPending name = true → f.isDeclared name = true
  isConstant : f.isConstant name = true → f.isDeclared name = true

theorem Sound.change {f : Flags} {name : String} (h : f.Sound name) (c : Change) : (f.change c).Sound name := by
  obtain ⟨hset, hpending, hconstant⟩ := h
  refine ⟨?_, ?_, ?_⟩
  · rw [isSet_change, isDeclared_change]
    cases c with
    | toggle n => by_cases hn : name = n <;> grind
    | _ => grind
  · rw [isPending_change, isDeclared_change]
    cases c <;> grind
  · rw [isConstant_change, isDeclared_change]
    cases c <;> grind

theorem sound_run (changes : List Change) (name : String) : (({} : Flags).run changes).Sound name := by
  induction changes using List.reverseRecOn with
  | nil => exact ⟨nofun, nofun, nofun⟩
  | append_singleton changes c ih =>
    rw [run_snoc]
    exact ih.change c

/-- what is on is declared -/
theorem isDeclared_of_isSet {name : String} {changes : List Change} (h : (({} : Flags).run changes).isSet name = true) :
    (({} : Flags).run changes).isDeclared name = true :=
  (sound_run changes name).isSet h

/-- a flag has a value just if it is declared: 1 if it is on, and 0 if it is off -/
theorem value?_eq {f : Flags} {name : String} (h : f.Sound name) : f.value? name =
    if f.isDeclared name then some (if f.isSet name then Float.ofNat 1 else Float.ofNat 0) else none := by
  unfold value?
  split_ifs with hset hdeclared hdeclared
  · rfl
  · exact absurd (h.isSet hset) hdeclared
  · rfl
  · rfl

end Stagecraft.Flags
