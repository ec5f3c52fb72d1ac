/-
The grammar of cycle names. A name spells words if it is their segments, joined by underscores, with the suffix behind them; a
segment is digits with a plus in front or not. Two words or more that are not all zero make a cycle, and every other name has a
fault of its own: no suffix, a segment that spells no word, a word alone, or nothing but zeros, in this order.

- `segments_eq_splitOn`, `exists_written`: every name with the suffix is written in one way.
- `parse_of_spells`, `parse_of_bad`: what is read off the segments, if all of them spell words and if one does not.
- `reads_its_grammar`: names and cycles, names and faults, and printing.
-/
import Mathlib.Tactic
import Stagecraft.Variable.Cycle
import Stagecraft.Proofs.Number.Digits

namespace Stagecraft.Cycle

/-! ## Segments -/

theorem segments_eq_splitOn (cs : List Char) : segments cs = cs.splitOn '_' := by
  induction cs with
  | nil => rfl
  | cons c cs ih =>
    rw [List.splitOn_cons_eq_if_modifyHead, segments, ih]
    by_cases hc : c = '_'
    · simp [hc]
    · rw [if_neg hc, if_neg (by simpa using hc)]
      cases hsplit : cs.splitOn '_' with
      | nil => exact absurd hsplit (List.splitOn_ne_nil _ _)
      | cons s ss => rfl

theorem underscore_not_mem_segments {cs s : List Char} (h : s ∈ segments cs) : '_' ∉ s := by
  induction cs generalizing s with
  | nil => simp_all [segments]
  | cons c cs ih =>
    rw [segments] at h
    split_ifs at h with hc
    · rcases List.mem_cons.1 h with rfl | hs
      · exact List.not_mem_nil
      · exact ih hs
    · split at h
      · simpa [List.mem_singleton.1 h] using Ne.symm hc
      · rename_i head tail hsegments
        rcases List.mem_cons.1 h with rfl | hs
        · have hhead : '_' ∉ head := ih (hsegments ▸ List.mem_cons_self)
          simpa [hhead] using Ne.symm hc
        · exact ih (hsegments ▸ List.mem_cons_of_mem head hs)

/-- the name of these segments -/
def written (segments : List String) : String := "_".intercalate segments ++ "_cycle"

theorem toList_written (ss : List String) : (written ss).toList = ['_'].intercalate (ss.map String.toList) ++ suffix := by
  rw [written, String.toList_append, String.toList_intercalate]
  rfl

theorem isName_iff {name : String} : isName name = true ↔ ∃ body, name = body ++ "_cycle" := by
  rw [isName, List.isSuffixOf_iff_suffix]
  constructor
  · rintro ⟨body, hbody⟩
    refine ⟨String.ofList body, String.toList_injective ?_⟩
    rw [String.toList_append, String.toList_ofList, ← hbody]
    rfl
  · rintro ⟨body, rfl⟩
    exact ⟨body.toList, by rw [String.toList_append]; rfl⟩

theorem isName_written (ss : List String) : isName (written ss) = true := isName_iff.2 ⟨_, rfl⟩

/-- the segments of a name are those that it is written in -/
theorem segments_written {ss : List String} (hne : ss ≠ []) (hss : ∀ s ∈ ss, '_' ∉ s.toList) :
    segments ((written ss).toList.take ((written ss).toList.length - suffix.length)) = ss.map String.toList := by
  rw [toList_written, List.length_append, Nat.add_sub_cancel, List.take_left, segments_eq_splitOn]
  exact List.splitOn_intercalate '_' (by simpa using hss) (by simpa using hne)

/-- every name with the suffix is written in segments without underscores -/
theorem exists_written {name : String} (h : isName name = true) :
    ∃ ss, ss ≠ [] ∧ (∀ s ∈ ss, '_' ∉ s.toList) ∧ name = written ss := by
  obtain ⟨body, rfl⟩ := isName_iff.1 h
  have hsegments : ['_'].intercalate (segments body.toList) = body.toList := by
    rw [segments_eq_splitOn, List.intercalate_splitOn]
  refine ⟨(segments body.toList).map String.ofList, ?_, ?_, ?_⟩
  · simp [segments_eq_splitOn]
  · simp only [List.forall_mem_map, String.toList_ofList]
    exact fun s hs => underscore_not_mem_segments hs
  · apply String.toList_injective
    rw [toList_written, List.map_map, String.toList_append]
    simp [Function.comp_def, hsegments, suffix]

/-! ## Words -/

/-- a text that spells a word: digits, with a plus in front or not -/
def SpellsWord (s : String) (n : ℕ) : Prop :=
  (Digits.Spells s.toList n ∨ ∃ digits, s.toList = '+' :: digits ∧ Digits.Spells digits n) ∧ n ≤ Word.last 64

theorem segment?_eq_some_iff {s : String} {n : ℕ} : segment? s.toList = some n ↔ SpellsWord s n := by
  unfold segment? SpellsWord
  split
  · rename_i digits hplus
    have hdigits : ¬Digits.Spells s.toList n := fun h => h.not_mem rfl (hplus ▸ List.mem_cons_self)
    rw [Digits.word?_eq_some_iff, or_iff_right hdigits, hplus]
    simp
  · rename_i hplain
    have hplus : ¬∃ digits, s.toList = '+' :: digits ∧ Digits.Spells digits n := fun ⟨digits, hs, _⟩ => hplain digits hs
    rw [Digits.word?_eq_some_iff, or_iff_left hplus]

theorem segment?_eq_none_iff {s : String} : segment? s.toList = none ↔ ¬∃ n, SpellsWord s n := by
  simp only [← segment?_eq_some_iff, ← Option.isSome_iff_exists, Option.not_isSome_iff_eq_none]

theorem SpellsWord.underscore_not_mem {s : String} {n : ℕ} (h : SpellsWord s n) : '_' ∉ s.toList := by
  rcases h.1 with hspells | ⟨digits, hs, hspells⟩
  · exact hspells.not_mem rfl
  · simpa [hs] using hspells.not_mem rfl

theorem spellsWord_repr {n : ℕ} (h : n ≤ Word.last 64) : SpellsWord n.repr n := ⟨.inl (Digits.spells_repr n), h⟩

/-- a name that is written in segments for these words, one for each -/
def Spells (name : String) (words : List ℕ) : Prop :=
  ∃ ss, ss ≠ [] ∧ name = written ss ∧ List.Forall₂ SpellsWord ss words

theorem spells_repr {words : List ℕ} (hne : words ≠ []) (h : ∀ n ∈ words, n ≤ Word.last 64) :
    Spells (written (words.map Nat.repr)) words := by
  refine ⟨_, List.map_eq_nil_iff.not.2 hne, rfl, ?_⟩
  rw [List.forall₂_map_left_iff, List.forall₂_same]
  exact fun n hn => spellsWord_repr (h n hn)

theorem Spells.le_last {name : String} {words : List ℕ} (h : Spells name words) : ∀ n ∈ words, n ≤ Word.last 64 := by
  obtain ⟨ss, -, -, hwords⟩ := h
  induction hwords with
  | nil => exact nofun
  | cons hs _ ih => exact List.forall_mem_cons.2 ⟨hs.2, ih⟩

theorem exists_word {ss : List String} {words : List ℕ} (h : List.Forall₂ SpellsWord ss words) :
    ∀ s ∈ ss, ∃ n, SpellsWord s n := by
  induction h with
  | nil => exact nofun
  | cons hs _ ih => exact List.forall_mem_cons.2 ⟨⟨_, hs⟩, ih⟩

/-- the texts of a list spell words all of them, or there is a first that spells none -/
theorem forall₂_or_exists_first (ss : List String) :
    (∃ words, List.Forall₂ SpellsWord ss words) ∨
      ∃ before bad after, ss = before ++ bad :: after ∧ (∀ s ∈ before, ∃ n, SpellsWord s n) ∧ ¬∃ n, SpellsWord bad n := by
  induction ss with
  | nil => exact .inl ⟨[], .nil⟩
  | cons s ss ih =>
    by_cases hs : ∃ n, SpellsWord s n
    · rcases ih with ⟨words, hwords⟩ | ⟨before, bad, after, rfl, hbefore, hbad⟩
      · obtain ⟨n, hn⟩ := hs
        exact .inl ⟨n :: words, .cons hn hwords⟩
      · exact .inr ⟨s :: before, bad, after, rfl, List.forall_mem_cons.2 ⟨hs, hbefore⟩, hbad⟩
    · exact .inr ⟨[], s, ss, rfl, nofun, hs⟩

/-! ## Reading -/

/-- the cycle of two words or more: their sum is the period, up to the last word -/
def ofWords (off on : ℕ) (more : List ℕ) : Cycle := ⟨off, on, min (off :: on :: more).sum (Word.last 64)⟩

theorem period_eq_zero_iff {words : List ℕ} : period words = 0 ↔ ∀ n ∈ words, n = 0 := by
  have hlast : Word.last 64 ≠ 0 := by decide
  have hperiod : period words = min words.sum (Word.last 64) := rfl
  rw [hperiod, Nat.min_eq_zero_iff, or_iff_left hlast, List.sum_eq_zero_iff]

theorem filterMap_segment? {ss : List String} {words : List ℕ} (h : List.Forall₂ SpellsWord ss words) :
    (ss.map String.toList).filterMap segment? = words := by
  induction h with
  | nil => rfl
  | cons hs _ ih => rw [List.map_cons, List.filterMap_cons, segment?_eq_some_iff.2 hs, ih]

theorem firstBad?_eq_none {ss : List String} (h : ∀ s ∈ ss, ∃ n, SpellsWord s n) :
    firstBad? (ss.map String.toList) = none := by
  rw [firstBad?, List.find?_eq_none, List.forall_mem_map]
  intro s hs
  rw [Option.isNone_iff_eq_none, segment?_eq_none_iff, not_not]
  exact h s hs

theorem firstBad?_eq_some {before after : List String} {bad : String} (hbefore : ∀ s ∈ before, ∃ n, SpellsWord s n)
    (hbad : ¬∃ n, SpellsWord bad n) : firstBad? ((before ++ bad :: after).map String.toList) = some bad.toList := by
  have hfirst := firstBad?_eq_none hbefore
  rw [firstBad?] at hfirst ⊢
  rw [List.map_append, List.find?_append, hfirst, Option.none_or, List.map_cons, List.find?_cons_of_pos]
  rw [Option.isNone_iff_eq_none]
  exact segment?_eq_none_iff.2 hbad

theorem parse_of_not_isName {name : String} (h : isName name = false) : parse name = .error (.tooShort name) := by
  rw [parse, h]
  rfl

/-- the words of a name are read off its segments -/
theorem parts_of_spells {name : String} {words : List ℕ} (h : Spells name words) :
    let parts := segments (name.toList.take (name.toList.length - suffix.length))
    isName name = true ∧ firstBad? parts = none ∧ parts.filterMap segment? = words := by
  obtain ⟨ss, hss, rfl, hwords⟩ := h
  have hparts : ∀ s ∈ ss, '_' ∉ s.toList := fun s hs => (exists_word hwords s hs).choose_spec.underscore_not_mem
  rw [segments_written hss hparts]
  exact ⟨isName_written ss, firstBad?_eq_none (exists_word hwords), filterMap_segment? hwords⟩

/-- a name spells no other words -/
theorem spells_unique {name : String} {words others : List ℕ} (h : Spells name words) (hothers : Spells name others) :
    others = words :=
  (parts_of_spells hothers).2.2.symm.trans (parts_of_spells h).2.2

theorem parse_of_one {name : String} {n : ℕ} (h : Spells name [n]) : parse name = .error (.tooShort name) := by
  obtain ⟨hname, hfirst, hwords⟩ := parts_of_spells h
  simp only [parse, hname, hfirst, hwords, Bool.not_true, Bool.false_eq_true, if_false]

theorem parse_of_more {name : String} {off on : ℕ} {more : List ℕ} (h : Spells name (off :: on :: more)) :
    parse name = if ∀ n ∈ off :: on :: more, n = 0 then .error (.empty name) else .ok (ofWords off on more) := by
  obtain ⟨hname, hfirst, hwords⟩ := parts_of_spells h
  simp only [parse, hname, hfirst, hwords, Bool.not_true, Bool.false_eq_true, if_false, period_eq_zero_iff]
  rfl

/-- a segment that spells no word is told, if none before it does -/
theorem parse_of_bad {before after : List String} {bad : String}
    (hparts : ∀ s ∈ before ++ bad :: after, '_' ∉ s.toList) (hbefore : ∀ s ∈ before, ∃ n, SpellsWord s n)
    (hbad : ¬∃ n, SpellsWord bad n) :
    parse (written (before ++ bad :: after)) = .error (.malformed (written (before ++ bad :: after)) bad) := by
  simp only [parse, isName_written, segments_written (by simp) hparts, firstBad?_eq_some hbefore hbad, Bool.not_true,
    Bool.false_eq_true, if_false, String.ofList_toList]

/-! ## Faults -/

/-- a name that spells no cycle, and why -/
inductive Misspells : String → CycleFault → Prop where
  /-- the suffix is missing -/
  | unsuffixed {name : String} (h : ∀ body, name ≠ body ++ "_cycle") : Misspells name (.tooShort name)
  /-- a segment spells no word, and none before it does; there may be no other segment -/
  | malformed {before after : List String} {bad : String} (hparts : ∀ s ∈ before ++ bad :: after, '_' ∉ s.toList)
      (hbefore : ∀ s ∈ before, ∃ n, SpellsWord s n) (hbad : ¬∃ n, SpellsWord bad n) :
      Misspells (written (before ++ bad :: after)) (.malformed (written (before ++ bad :: after)) bad)
  /-- the only segment spells a word -/
  | alone {name : String} {n : ℕ} (h : Spells name [n]) : Misspells name (.tooShort name)
  /-- all segments, two or more, spell zero -/
  | zeros {name : String} {off on : ℕ} {more : List ℕ} (h : Spells name (off :: on :: more))
      (hzero : ∀ n ∈ off :: on :: more, n = 0) : Misspells name (.empty name)

theorem parse_of_misspells {name : String} {fault : CycleFault} (h : Misspells name fault) : parse name = .error fault := by
  cases h with
  | unsuffixed h => exact parse_of_not_isName (Bool.eq_false_iff.2 fun hname => not_exists.2 h (isName_iff.1 hname))
  | malformed hparts hbefore hbad => exact parse_of_bad hparts hbefore hbad
  | alone h => exact parse_of_one h
  | zeros h hzero => exact (parse_of_more h).trans (if_pos hzero)

theorem parse_of_words {name : String} {off on : ℕ} {more : List ℕ} (h : Spells name (off :: on :: more))
    (hsome : ∃ n ∈ off :: on :: more, n ≠ 0) : parse name = .ok (ofWords off on more) := by
  obtain ⟨n, hn, hpos⟩ := hsome
  exact (parse_of_more h).trans (if_neg fun hzero => hpos (hzero n hn))

/-- every name spells a cycle or has a fault -/
theorem spells_or_misspells (name : String) :
    (∃ off on more, Spells name (off :: on :: more) ∧ ∃ n ∈ off :: on :: more, n ≠ 0) ∨ ∃ fault, Misspells name fault := by
  by_cases hname : isName name = true
  · obtain ⟨ss, hss, hparts, rfl⟩ := exists_written hname
    rcases forall₂_or_exists_first ss with ⟨words, hwords⟩ | ⟨before, bad, after, rfl, hbefore, hbad⟩
    · have hspells : Spells (written ss) words := ⟨ss, hss, rfl, hwords⟩
      obtain _ | ⟨off, _ | ⟨on, more⟩⟩ := words
      · exact absurd (List.forall₂_nil_right_iff.1 hwords) hss
      · exact .inr ⟨_, .alone hspells⟩
      · by_cases hzero : ∀ n ∈ off :: on :: more, n = 0
        · exact .inr ⟨_, .zeros hspells hzero⟩
        · exact .inl ⟨off, on, more, hspells, by push Not at hzero; exact hzero⟩
    · exact .inr ⟨_, .malformed hparts hbefore hbad⟩
  · exact .inr ⟨_, .unsuffixed fun body hbody => hname (isName_iff.2 ⟨body, hbody⟩)⟩

/-- what a cycle was read off -/
theorem words_of_parse {name : String} {c : Cycle} (h : parse name = .ok c) :
    ∃ off on more, Spells name (off :: on :: more) ∧ (∃ n ∈ off :: on :: more, n ≠ 0) ∧ c = ofWords off on more := by
  rcases spells_or_misspells name with ⟨off, on, more, hspells, hsome⟩ | ⟨fault, hfault⟩
  · exact ⟨off, on, more, hspells, hsome, Except.ok.inj (h.symm.trans (parse_of_words hspells hsome))⟩
  · cases h.symm.trans (parse_of_misspells hfault)

/-! ## Main result -/

/-- **The grammar of cycle names.** A name is read as a cycle if and only if it is written in two segments or more that spell words
which are not all zero; the cycle is then off for the first, on for the second, and as long as all together, up to the last word.
Any other name has the first fault in this order: no suffix, the first segment that spells no word, a word alone, nothing but zeros.
And two words or more, not all zero, are read back from the name that they are printed in. -/
theorem reads_its_grammar :
    (∀ name c, parse name = .ok c ↔
      ∃ off on more, Spells name (off :: on :: more) ∧ (∃ n ∈ off :: on :: more, n ≠ 0) ∧ c = ofWords off on more) ∧
    (∀ name fault, parse name = .error fault ↔ Misspells name fault) ∧
    ∀ off on more, (∀ n ∈ off :: on :: more, n ≤ Word.last 64) → (∃ n ∈ off :: on :: more, n ≠ 0) →
      parse (written ((off :: on :: more).map Nat.repr)) = .ok (ofWords off on more) := by
  refine ⟨fun name c => ⟨words_of_parse, ?_⟩, fun name fault => ⟨fun h => ?_, parse_of_misspells⟩, ?_⟩
  · rintro ⟨off, on, more, hspells, hsome, rfl⟩
    exact parse_of_words hspells hsome
  · rcases spells_or_misspells name with ⟨off, on, more, hspells, hsome⟩ | ⟨other, hother⟩
    · cases h.symm.trans (parse_of_words hspells hsome)
    · cases h.symm.trans (parse_of_misspells hother)
      exact hother
  · exact fun off on more hwords hsome => parse_of_words (spells_repr (by simp) hwords) hsome

/-- a flare that is off for a tick and then on for as long as a word can tell is read back, with a period that is cut short; a plus
and zeros in front change nothing; and of two segments that spell no word the first is told, although it is empty -/
theorem reads_its_grammar_flare :
    (∀ n ∈ [1, Word.last 64], n ≤ Word.last 64) ∧ (∃ n ∈ [1, Word.last 64], n ≠ 0) ∧
      parse "1_18446744073709551615_cycle" = .ok ⟨1, 18446744073709551615, 18446744073709551615⟩ ∧
      parse "+5_010_cycle" = .ok ⟨5, 10, 15⟩ ∧ parse "5__ten_cycle" = .error (.malformed "5__ten_cycle" "") := by
  obtain ⟨hcycle, hfault, hprinted⟩ := reads_its_grammar
  have hwords : ∀ n ∈ [1, Word.last 64], n ≤ Word.last 64 := by decide
  have hsome : ∃ n ∈ [1, Word.last 64], n ≠ 0 := ⟨1, by simp, one_ne_zero⟩
  have hplus : SpellsWord "+5" 5 := ⟨.inr ⟨['5'], rfl, by simp, List.all_eq_true.1 rfl, rfl⟩, by decide⟩
  have hzeros : SpellsWord "010" 10 := ⟨.inl ⟨by simp, List.all_eq_true.1 rfl, rfl⟩, by decide⟩
  have hempty : ¬∃ n, SpellsWord "" n := segment?_eq_none_iff.1 rfl
  have hfirst : ∀ s ∈ ["5"], ∃ n, SpellsWord s n := List.forall_mem_singleton.2 ⟨5, @spellsWord_repr 5 (by decide)⟩
  refine ⟨hwords, hsome, hprinted 1 (Word.last 64) [] hwords hsome, ?_, ?_⟩
  · have hspells : Spells "+5_010_cycle" [5, 10] := ⟨["+5", "010"], by simp, rfl, .cons hplus (.cons hzeros .nil)⟩
    exact (hcycle _ _).2 ⟨5, 10, [], hspells, ⟨5, by simp, by decide⟩, rfl⟩
  · exact (hfault _ _).2 (@Misspells.malformed ["5"] ["ten"] "" (by decide) hfirst hempty)

end Stagecraft.Cycle
