/-
The index of a numbered name. Only the part behind the last underscore counts: digits that spell a word other than zero are read as
an index, one less than they say, whatever stands in front of the underscore, a number of its own included. Any other name has no
index, and lacks one of these: an underscore, digits and nothing else behind it, a number other than zero, a number that is a word.

- `endsIn_or_not_mem`, `lastPart?_of_endsIn`: a name with an underscore has a last part, and that is the one that is read.
- `index?_eq_some_iff`, `index?_of_unindexed`: numbers that are read, and names without.
- `index?_padded`, `index?_of_isName`: numbers that are printed, and cycles.
- `reads_its_number`: names with an index, names without, and printing.
-/
import Mathlib.Tactic
import Stagecraft.Variable.Name
import Stagecraft.Proofs.Variable.Grammar

namespace Stagecraft.VariableName

/-! ## The last part -/

/-- what a name has behind its last underscore -/
def EndsIn (name part : String) : Prop := ∃ owner, name = owner ++ "_" ++ part ∧ '_' ∉ part.toList

theorem toList_joined (owner part : String) : (owner ++ "_" ++ part).toList = owner.toList ++ '_' :: part.toList := by
  rw [String.toList_append, String.toList_append, List.append_assoc]
  rfl

theorem endsIn_or_not_mem (name : String) : (∃ part, EndsIn name part) ∨ '_' ∉ name.toList := by
  by_cases hmem : '_' ∈ name.toList
  · -- the last underscore is the first one from behind
    obtain ⟨part, owner, hname, hpart⟩ := List.eq_append_cons_of_mem (List.mem_reverse.2 hmem)
    refine .inl ⟨String.ofList part.reverse, String.ofList owner.reverse, String.toList_injective ?_, by simpa using hpart⟩
    calc name.toList = (part ++ '_' :: owner).reverse := by rw [← hname, List.reverse_reverse]
      _ = owner.reverse ++ '_' :: part.reverse := by simp
      _ = (String.ofList owner.reverse ++ "_" ++ String.ofList part.reverse).toList := by
        rw [toList_joined, String.toList_ofList, String.toList_ofList]
  · exact .inr hmem

theorem lastPart?_of_not_mem {name : String} (h : '_' ∉ name.toList) : lastPart? name.toList = none := by
  rw [lastPart?, Cycle.segments_eq_splitOn, List.splitOn_eq_singleton h]

theorem lastPart?_of_endsIn {name part : String} (h : EndsIn name part) : lastPart? name.toList = some part.toList := by
  obtain ⟨owner, rfl, hpart⟩ := h
  have hparts : Cycle.segments (owner ++ "_" ++ part).toList = owner.toList.splitOn '_' ++ [part.toList] := by
    rw [toList_joined, Cycle.segments_eq_splitOn, List.splitOn_append_cons_self, List.splitOn_eq_singleton hpart]
  -- what stands in front is a part as well, so that the last one is not the only one
  obtain ⟨first, more, howner⟩ := List.exists_cons_of_ne_nil (List.splitOn_ne_nil '_' owner.toList)
  rw [lastPart?, hparts, howner]
  cases more with
  | nil => rfl
  | cons second more => exact @List.getLast?_concat _ (first :: second :: more) part.toList

theorem EndsIn.unique {name part other : String} (h : EndsIn name part) (hother : EndsIn name other) : other = part := by
  have hparts : some other.toList = some part.toList := (lastPart?_of_endsIn hother).symm.trans (lastPart?_of_endsIn h)
  exact String.toList_injective (Option.some.inj hparts)

/-! ## Reading -/

/-- a name that ends in digits, and the number that they spell -/
def Numbered (name : String) (n : ℕ) : Prop := ∃ part, EndsIn name part ∧ Digits.Spells part.toList n

theorem numbered_joined (owner : String) {part : String} {n : ℕ} (h : Digits.Spells part.toList n) :
    Numbered (owner ++ "_" ++ part) n :=
  ⟨part, ⟨owner, rfl, h.not_mem rfl⟩, h⟩

theorem Numbered.unique {name : String} {n other : ℕ} (h : Numbered name n) (hother : Numbered name other) : other = n := by
  obtain ⟨part, hname, hpart⟩ := h
  obtain ⟨_, hname', hpart'⟩ := hother
  obtain rfl := hname.unique hname'
  exact hpart'.value.symm.trans hpart.value

theorem index?_eq_some_iff {name : String} {i : ℕ} :
    index? name = some i ↔ ∃ n, Numbered name n ∧ 1 ≤ n ∧ n ≤ Word.last 64 ∧ i = n - 1 := by
  simp only [index?, Option.bind_eq_bind, Option.bind_eq_some_iff, Digits.word?_eq_some_iff]
  constructor
  · rintro ⟨cs, hpart, n, ⟨hspells, hword⟩, hindex⟩
    obtain ⟨hpos, rfl⟩ : n ≠ 0 ∧ n - 1 = i := by simpa using hindex
    rcases endsIn_or_not_mem name with ⟨part, hname⟩ | hname
    · obtain rfl : part.toList = cs := Option.some.inj ((lastPart?_of_endsIn hname).symm.trans hpart)
      exact ⟨n, ⟨part, hname, hspells⟩, Nat.one_le_iff_ne_zero.2 hpos, hword, rfl⟩
    · cases (lastPart?_of_not_mem hname).symm.trans hpart
  · rintro ⟨n, ⟨part, hname, hspells⟩, hpos, hword, rfl⟩
    exact ⟨part.toList, lastPart?_of_endsIn hname, n, ⟨hspells, hword⟩, if_neg (Nat.one_le_iff_ne_zero.1 hpos)⟩

/-! ## Names without an index -/

/-- a name without an index, and why -/
inductive Unindexed : String → Prop where
  /-- there is no last part -/
  | single {name : String} (h : '_' ∉ name.toList) : Unindexed name
  /-- the last part is empty, or not digits alone -/
  | worded {name part : String} (h : EndsIn name part) (hpart : part = "" ∨ ∃ c ∈ part.toList, c.isDigit = false) :
    Unindexed name
  /-- the number is not counted from one -/
  | zero {name : String} (h : Numbered name 0) : Unindexed name
  /-- the number is past the last word -/
  | beyond {name : String} {n : ℕ} (h : Numbered name n) (hword : Word.last 64 < n) : Unindexed name

theorem not_numbered_of_worded {name part : String} (h : EndsIn name part)
    (hpart : part = "" ∨ ∃ c ∈ part.toList, c.isDigit = false) (n : ℕ) : ¬Numbered name n := by
  rintro ⟨_, hname, hspells⟩
  obtain rfl := h.unique hname
  rcases hpart with rfl | ⟨c, hmem, hc⟩
  · exact hspells.ne_nil rfl
  · exact hspells.not_mem hc hmem

theorem index?_of_unindexed {name : String} (h : Unindexed name) : index? name = none := by
  rw [Option.eq_none_iff_forall_ne_some]
  intro i hi
  obtain ⟨n, hn, hpos, hword, -⟩ := index?_eq_some_iff.1 hi
  cases h with
  | single h =>
    obtain ⟨part, ⟨owner, rfl, -⟩, -⟩ := hn
    exact h (by simp)
  | worded h hpart => exact not_numbered_of_worded h hpart n hn
  | zero h =>
    obtain rfl := h.unique hn
    exact absurd hpos (by decide)
  | beyond h hbeyond =>
    obtain rfl := h.unique hn
    exact absurd hword hbeyond.not_ge

/-- every name has a number that counts an index, or a reason to have none -/
theorem numbered_or_unindexed (name : String) : (∃ n, Numbered name n ∧ 1 ≤ n ∧ n ≤ Word.last 64) ∨ Unindexed name := by
  rcases endsIn_or_not_mem name with ⟨part, hname⟩ | hname
  · by_cases hspells : ∃ n, Digits.Spells part.toList n
    · obtain ⟨n, hn⟩ := hspells
      have hnumber : Numbered name n := ⟨part, hname, hn⟩
      rcases Nat.eq_zero_or_pos n with rfl | hpos
      · exact .inr (.zero hnumber)
      · rcases Nat.lt_or_ge (Word.last 64) n with hbeyond | hword
        · exact .inr (.beyond hnumber hbeyond)
        · exact .inl ⟨n, hnumber, hpos, hword⟩
    · refine .inr (.worded hname ?_)
      rw [Digits.spells_iff, not_and_or, not_not] at hspells
      simpa using hspells
  · exact .inr (.single hname)

/-- a cycle has no index, though its words are numbers -/
theorem index?_of_isName {name : String} (h : Cycle.isName name = true) : index? name = none := by
  obtain ⟨body, rfl⟩ := Cycle.isName_iff.1 h
  have hname : EndsIn (body ++ "_cycle") "cycle" := ⟨body, by rw [String.append_assoc]; rfl, by decide⟩
  exact index?_of_unindexed (.worded hname (.inr ⟨'c', by decide, rfl⟩))

/-! ## Printing -/

/-- a number behind so many zeros -/
def padded (zeros n : ℕ) : String := String.ofList (List.replicate zeros '0') ++ n.repr

theorem spells_padded (zeros n : ℕ) : Digits.Spells (padded zeros n).toList n := by
  rw [padded, String.toList_append, String.toList_ofList]
  exact (Digits.spells_repr n).zeros zeros

/-- an index is read back from any name that it is printed in, padded or not -/
theorem index?_padded (owner : String) (zeros : ℕ) {i : ℕ} (h : i < Word.last 64) :
    index? (owner ++ "_" ++ padded zeros (i + 1)) = some i :=
  index?_eq_some_iff.2 ⟨i + 1, numbered_joined owner (spells_padded zeros (i + 1)), Nat.le_add_left 1 i, h, rfl⟩

/-! ## Main result -/

/-- **Numbered names.** A name has an index if and only if what stands behind its last underscore is digits that spell a word other
than zero, leading zeros or not; the index is then one less. Any other name has none: it has no underscore, or nothing behind the
last one, or a character there that is no digit, or zero, or a number past the last word. And an index below the last word is read
back from the name that it is printed in, counted from one, behind any owner, which may be empty or have underscores and numbers of
its own. -/
theorem reads_its_number :
    (∀ name i, index? name = some i ↔
      ∃ part n, EndsIn name part ∧ Digits.Spells part.toList n ∧ 1 ≤ n ∧ n ≤ Word.last 64 ∧ i = n - 1) ∧
    (∀ name, index? name = none ↔ Unindexed name) ∧
    ∀ owner i, i < Word.last 64 → index? (owner ++ "_" ++ (i + 1).repr) = some i := by
  refine ⟨fun name i => ?_, fun name => ⟨fun h => ?_, index?_of_unindexed⟩, fun owner i h => ?_⟩
  · rw [index?_eq_some_iff]
    constructor
    · rintro ⟨n, ⟨part, hname, hpart⟩, hbounds⟩
      exact ⟨part, n, hname, hpart, hbounds⟩
    · rintro ⟨part, n, hname, hpart, hbounds⟩
      exact ⟨n, ⟨part, hname, hpart⟩, hbounds⟩
  · rcases numbered_or_unindexed name with ⟨n, hn, hpos, hword⟩ | hunindexed
    · cases h.symm.trans (index?_eq_some_iff.2 ⟨n, hn, hpos, hword, rfl⟩)
    · exact hunindexed
  · simpa [padded] using index?_padded owner 0 h

/-- the last door that a word can count is read back, on the second floor as anywhere, and there is none behind it; a padded number
is read as well, but no plus, no zero, and neither the floor alone nor a cycle -/
theorem reads_its_number_doors :
    Word.last 64 - 1 < Word.last 64 ∧ index? "floor_2_door_18446744073709551615" = some (Word.last 64 - 1) ∧
      index? "floor_2_door_18446744073709551616" = none ∧ index? "door_007" = some 6 ∧ index? "door_+7" = none ∧
      index? "door_0" = none ∧ index? "floor_2_" = none ∧ index? "floor" = none ∧ index? "5_10_0_cycle" = none := by
  obtain ⟨hindex, hnone, hprinted⟩ := reads_its_number
  have hlast : Word.last 64 - 1 < Word.last 64 := by decide
  have hname : "floor_2_door" ++ "_" ++ (Word.last 64 - 1 + 1).repr = "floor_2_door_18446744073709551615" := by decide
  have hbeyond : Numbered "floor_2_door_18446744073709551616" 18446744073709551616 :=
    numbered_joined "floor_2_door" (Digits.spells_repr 18446744073709551616)
  have hpadded : EndsIn "door_007" "007" := ⟨"door", rfl, by decide⟩
  have hplus : EndsIn "door_+7" "+7" := ⟨"door", rfl, by decide⟩
  refine ⟨hlast, hname ▸ hprinted "floor_2_door" _ hlast, (hnone _).2 (.beyond hbeyond (by decide)), ?_, ?_, ?_, ?_, ?_, ?_⟩
  · exact (hindex _ _).2 ⟨"007", 7, hpadded, spells_padded 2 7, by decide, by decide, rfl⟩
  · exact (hnone _).2 (.worded hplus (.inr ⟨'+', by decide, rfl⟩))
  · exact (hnone _).2 (.zero (numbered_joined "door" (Digits.spells_repr 0)))
  · exact (hnone _).2 (.worded ⟨"floor_2", rfl, by decide⟩ (.inl rfl))
  · exact (hnone _).2 (.single (by decide))
  · exact index?_of_isName rfl

end Stagecraft.VariableName
