/-
Lists of constants, the last of which wins. A new list takes the place of the old one as a whole, and touches no flag that is on
neither. So as long as the host leaves the listed names alone, the flags that are on fall into two parts that never meet: the last
list, and what the host's own changes would have turned on by themselves.

- `lit_replaceConstants`, `known_replaceConstants`: what a new list makes of any flags.
- `isSet_unlisted`, `isSet_listed`: one flag of either part, over a run.
- `last_list_wins`: a new list, and a run of lists and changes of the host.
-/
import Stagecraft.Proofs.Variable.OneShot
import Stagecraft.Proofs.Variable.Reload

namespace Stagecraft.Flags

namespace Change

/-- the flag that the host changes -/
def about? : Change → Option String
  | .declare n | .set n | .setOneShot n | .clear n | .toggle n => some n
  | .replaceConstants _ | .clearOneShots => none

/-- the names on a new list of constants -/
def listed : Change → List String
  | .replaceConstants names => names
  | _ => []

def isReload : Change → Bool
  | .replaceConstants _ => true
  | _ => false

end Change

/-- the last list of constants, empty before the first -/
def lastList (changes : List Change) : List String :=
  changes.foldl (fun last c => if c.isReload then c.listed else last) []

/-- the changes of the host alone -/
def ofHost (changes : List Change) : List Change := changes.filter fun c => !c.isReload

/-- the host changes no flag that is on any of the lists -/
def Apart (changes : List Change) : Prop := ∀ c ∈ changes, ∀ d ∈ changes, ∀ name ∈ c.about?, name ∉ d.listed

instance (changes : List Change) : Decidable (Apart changes) :=
  inferInstanceAs (Decidable (∀ c ∈ changes, ∀ d ∈ changes, ∀ name ∈ c.about?, name ∉ d.listed))

/-! ## One list -/

section OneList

variable (f : Flags) (names : List String)

theorem constants_replaceConstants : (f.replaceConstants names).constants.toFinset = names.toFinset := by
  ext name
  simp only [List.mem_toFinset, replaceConstants, (setConstant_all names { f with constants := [] }).2.1, List.not_mem_nil,
    or_false]

/-- the names of the new list go on, and those of the old list go off that the new one lacks -/
theorem lit_replaceConstants : (f.replaceConstants names).on.toFinset =
    (f.on.toFinset ∪ names.toFinset) \ (f.constants.toFinset \ names.toFinset) := by
  ext name
  have hset := f.isSet_replaceConstants name names
  rw [Bool.eq_iff_iff] at hset
  simp only [isSet, isConstant, Bool.or_eq_true, Bool.and_eq_true, Bool.not_eq_true', List.contains_eq_mem,
    decide_eq_false_iff_not, decide_eq_true_eq] at hset
  simp only [List.mem_toFinset, Finset.mem_sdiff, Finset.mem_union, hset]
  tauto

theorem known_replaceConstants :
    (f.replaceConstants names).declared.toFinset = f.declared.toFinset ∪ names.toFinset := by
  ext name
  have hdeclared := f.isDeclared_change name (.replaceConstants names)
  rw [Bool.eq_iff_iff] at hdeclared
  simpa [change, isDeclared] using hdeclared

end OneList

/-! ## Runs -/

theorem lastList_snoc (changes : List Change) (c : Change) :
    lastList (changes ++ [c]) = if c.isReload then c.listed else lastList changes := by
  simp [lastList]

theorem ofHost_snoc (changes : List Change) (c : Change) :
    ofHost (changes ++ [c]) = ofHost changes ++ if c.isReload then [] else [c] := by
  cases c <;> simp [ofHost, Change.isReload]

/-- what is on the last list is on one of the lists -/
theorem exists_listed {name : String} {changes : List Change} (h : name ∈ lastList changes) :
    ∃ d ∈ changes, name ∈ d.listed := by
  induction changes using List.reverseRecOn with
  | nil => cases h
  | append_singleton changes d ih =>
    rw [lastList_snoc] at h
    split_ifs at h
    · exact ⟨d, by simp, h⟩
    · obtain ⟨d', hd', hlisted⟩ := ih h
      exact ⟨d', by simp [hd'], hlisted⟩

/-- a flag that is on none of the lists is as the host alone would have it -/
theorem isSet_unlisted {name : String} {changes : List Change} (h : ∀ d ∈ changes, name ∉ d.listed) :
    (({} : Flags).run changes).isSet name = (({} : Flags).run (ofHost changes)).isSet name := by
  -- by then it is no constant, and a pending one-shot just if the host alone would have made it one
  suffices hall : (({} : Flags).run changes).isConstant name = false ∧
      (({} : Flags).run changes).isPending name = (({} : Flags).run (ofHost changes)).isPending name ∧
      (({} : Flags).run changes).isSet name = (({} : Flags).run (ofHost changes)).isSet name from hall.2.2
  induction changes using List.reverseRecOn with
  | nil => exact ⟨rfl, rfl, rfl⟩
  | append_singleton changes c ih =>
    obtain ⟨hconstant, hpending, hset⟩ := ih fun d hd => h d (List.mem_append_left _ hd)
    have hc : name ∉ c.listed := h c (by simp)
    rw [ofHost_snoc, run_snoc, isConstant_change, isPending_change, isSet_change]
    cases c with
    | replaceConstants names =>
      have hunlisted : name ∉ names := hc
      simp [Change.isReload, hunlisted, hconstant, hpending, hset]
    | _ => simp [Change.isReload, run_snoc, isPending_change, isSet_change, hconstant, hpending, hset]

/-- a flag that the host does not change is on if it is on the last list -/
theorem isSet_listed {name : String} {changes : List Change} (h : ∀ c ∈ changes, name ∉ c.about?) :
    (({} : Flags).run changes).isSet name = (lastList changes).contains name := by
  -- it is a constant just then, and never a one-shot
  suffices hall : (({} : Flags).run changes).isConstant name = (lastList changes).contains name ∧
      (({} : Flags).run changes).isPending name = false ∧
      (({} : Flags).run changes).isSet name = (lastList changes).contains name from hall.2.2
  induction changes using List.reverseRecOn with
  | nil => exact ⟨rfl, rfl, rfl⟩
  | append_singleton changes c ih =>
    obtain ⟨hconstant, hpending, hset⟩ := ih fun c' hc' => h c' (List.mem_append_left _ hc')
    have hc : name ∉ c.about? := h c (by simp)
    rw [lastList_snoc, run_snoc, isConstant_change, isPending_change, isSet_change, hconstant, hpending, hset]
    cases c with
    | replaceConstants names => simp [Change.isReload, Change.listed]
    | clearOneShots => simp [Change.isReload]
    | declare n | set n | setOneShot n | clear n | toggle n =>
      have hn : name ≠ n := by simpa [Change.about?, eq_comm] using hc
      simp [Change.isReload, hn]

/-- and the changes of the host alone leave it off -/
theorem isSet_ofHost {name : String} {changes : List Change} (h : ∀ c ∈ changes, name ∉ c.about?) :
    (({} : Flags).run (ofHost changes)).isSet name = false := by
  refine isSet_of_not_turnsOn fun c hc => ?_
  obtain ⟨hmem, hhost⟩ := List.mem_filter.1 hc
  have hc := h c hmem
  cases c <;> simp_all [Change.isReload, Change.about?, Change.turnsOn, Change.handles, eq_comm]

/-- **The last list wins.** A new list of constants becomes the constants, turns its names on and makes them known, turns off those
of the old list that it lacks, and changes nothing else. So at every point of a run in which the host changes no flag that is on
any of the lists, the flags that are on are those of the last list and those that the host alone would have on, and none is
both. -/
theorem last_list_wins :
    (∀ (f : Flags) (names : List String),
      let g := f.replaceConstants names
      g.constants.toFinset = names.toFinset ∧
        g.on.toFinset = (f.on.toFinset ∪ names.toFinset) \ (f.constants.toFinset \ names.toFinset) ∧
        g.declared.toFinset = f.declared.toFinset ∪ names.toFinset ∧ g.oneShot = f.oneShot) ∧
    ∀ changes : List Change, Apart changes →
      let last := (lastList changes).toFinset
      let host := (({} : Flags).run (ofHost changes)).on.toFinset
      Disjoint last host ∧ (({} : Flags).run changes).on.toFinset = last ∪ host := by
  refine ⟨fun f names => ⟨f.constants_replaceConstants names, f.lit_replaceConstants names, f.known_replaceConstants names,
    (setConstant_all names { f with constants := [] }).2.2⟩, ?_⟩
  intro changes hapart last host
  -- a flag is on one of the lists, or the host may change it, but not both
  have hunhandled : ∀ {name}, (∃ d ∈ changes, name ∈ d.listed) → ∀ c ∈ changes, name ∉ c.about? := by
    rintro name ⟨d, hd, hlisted⟩ c hc habout
    exact hapart c hc d hd name habout hlisted
  have hmem : ∀ {f : Flags} {name}, name ∈ f.on.toFinset ↔ f.isSet name = true := by
    intro f name
    rw [List.mem_toFinset, isSet, List.contains_iff_mem]
  constructor
  · rw [Finset.disjoint_left]
    intro name hlast hhost
    rw [hmem, isSet_ofHost (hunhandled (exists_listed (List.mem_toFinset.1 hlast)))] at hhost
    exact Bool.false_ne_true hhost
  · ext name
    rw [Finset.mem_union, hmem, hmem, List.mem_toFinset]
    by_cases hlisted : ∃ d ∈ changes, name ∈ d.listed
    · rw [isSet_listed (hunhandled hlisted), isSet_ofHost (hunhandled hlisted), List.contains_iff_mem]
      simp
    · have hlast : name ∉ lastList changes := fun h => hlisted (exists_listed h)
      have hunlisted : ∀ d ∈ changes, name ∉ d.listed := fun d hd hname => hlisted ⟨d, hd, hname⟩
      rw [isSet_unlisted hunlisted]
      simp [hlast]

/-- a vehicle is repainted twice, while its horn and its lights are worked -/
theorem last_list_wins_vehicle :
    let changes : List Change := [.replaceConstants ["siren", "painted", "siren"], .set "horn", .setOneShot "clicked",
      .replaceConstants ["painted"], .toggle "horn", .set "lights", .clearOneShots, .replaceConstants ["striped", "painted"],
      .toggle "horn", .setOneShot "clicked"]
    Apart changes ∧ lastList changes = ["striped", "painted"] ∧
      (({} : Flags).run (ofHost changes)).on.toFinset = {"lights", "horn", "clicked"} ∧
      (({} : Flags).run changes).on.toFinset = {"striped", "painted"} ∪ {"lights", "horn", "clicked"} := by
  intro changes
  have hapart : Apart changes := by decide
  have hlast : lastList changes = ["striped", "painted"] := by decide
  have hhost : (({} : Flags).run (ofHost changes)).on.toFinset = {"lights", "horn", "clicked"} := by decide
  obtain ⟨-, hon⟩ := last_list_wins.2 changes hapart
  rw [hlast, hhost] at hon
  exact ⟨hapart, hlast, hhost, hon⟩

end Stagecraft.Flags
