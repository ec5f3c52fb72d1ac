/-
Numbers in decimal digits. A text of one or more ASCII digits spells one number, leading zeros or not. The reader takes just these
texts, each as its number, and every number is printed as a text that spells it.

- `spells_iff`, `Spells.zeros`: which texts spell a number, and that zeros in front change nothing.
- `nat?_eq_some_iff`, `word?_eq_some_iff`: what is read, without and with the bound of a word.
- `spells_repr`: what is printed.
-/
import Mathlib.Tactic
import Stagecraft.Number.Digits
import Stagecraft.Number.Word

namespace Stagecraft.Digits

/-- one or more ASCII digits, and the number that they spell, most significant first -/
structure Spells (cs : List Char) (n : ℕ) : Prop where
  ne_nil : cs ≠ []
  isDigit : ∀ c ∈ cs, c.isDigit = true
  value : Nat.ofDigitChars 10 cs 0 = n

theorem spells_iff {cs : List Char} : (∃ n, Spells cs n) ↔ cs ≠ [] ∧ ∀ c ∈ cs, c.isDigit = true :=
  ⟨fun ⟨_, h⟩ => ⟨h.ne_nil, h.isDigit⟩, fun ⟨hne, hdigits⟩ => ⟨_, hne, hdigits, rfl⟩⟩

theorem Spells.not_mem {cs : List Char} {n : ℕ} (h : Spells cs n) {c : Char} (hc : c.isDigit = false) : c ∉ cs :=
  fun hmem => absurd (h.isDigit c hmem) (Bool.eq_false_iff.1 hc)

theorem Spells.zeros {cs : List Char} {n : ℕ} (h : Spells cs n) (k : ℕ) : Spells (List.replicate k '0' ++ cs) n := by
  have hzero : ∀ c ∈ List.replicate k '0', c.isDigit = true := fun c hc => List.eq_of_mem_replicate hc ▸ rfl
  refine ⟨List.append_ne_nil_of_right_ne_nil _ h.ne_nil, List.forall_mem_append.2 ⟨hzero, h.isDigit⟩, ?_⟩
  rw [Nat.ofDigitChars_append, Nat.ofDigitChars_replicate_zero, Nat.mul_zero]
  exact h.value

/-! ## Reading -/

theorem digit?_eq_some_iff {c : Char} {d : ℕ} : digit? c = some d ↔ c.isDigit = true ∧ c.toNat - '0'.toNat = d := by
  have hdigit : c.isDigit = true ↔ '0' ≤ c ∧ c ≤ '9' := by
    rw [Char.isDigit, Bool.and_eq_true, decide_eq_true_iff, decide_eq_true_iff]
    rfl
  rw [digit?, hdigit]
  split_ifs with h
  · simp [h]
  · simp [h]

theorem mapM_digit?_eq_some_iff {cs : List Char} {ds : List ℕ} :
    cs.mapM digit? = some ds ↔ (∀ c ∈ cs, c.isDigit = true) ∧ cs.map (fun c => c.toNat - '0'.toNat) = ds := by
  induction cs generalizing ds with
  | nil => simp [List.mapM_nil]
  | cons c cs ih =>
    simp only [List.mapM_cons, Option.bind_eq_bind, Option.bind_eq_some_iff, digit?_eq_some_iff, ih, Option.pure_def,
      Option.some.injEq, List.forall_mem_cons, List.map_cons]
    constructor
    · rintro ⟨d, ⟨hc, rfl⟩, ds, ⟨hcs, rfl⟩, rfl⟩
      exact ⟨⟨hc, hcs⟩, rfl⟩
    · rintro ⟨⟨hc, hcs⟩, rfl⟩
      exact ⟨_, ⟨hc, rfl⟩, _, ⟨hcs, rfl⟩, rfl⟩

theorem ofList_map (cs : List Char) : ofList (cs.map fun c => c.toNat - '0'.toNat) = Nat.ofDigitChars 10 cs 0 := by
  rw [ofList, List.foldl_map, Nat.ofDigitChars_eq_foldl]

theorem nat?_eq_some_iff {cs : List Char} {n : ℕ} : nat? cs = some n ↔ Spells cs n := by
  rw [nat?]
  split_ifs with hnil
  · exact ⟨nofun, fun h => absurd (List.isEmpty_iff.1 hnil) h.ne_nil⟩
  · simp only [Option.map_eq_some_iff, mapM_digit?_eq_some_iff]
    constructor
    · rintro ⟨ds, ⟨hdigits, rfl⟩, rfl⟩
      exact ⟨mt List.isEmpty_iff.2 hnil, hdigits, (ofList_map cs).symm⟩
    · rintro ⟨-, hdigits, rfl⟩
      exact ⟨_, ⟨hdigits, rfl⟩, ofList_map cs⟩

theorem word?_eq_some_iff {cs : List Char} {n : ℕ} : word? cs = some n ↔ Spells cs n ∧ n ≤ Word.last 64 := by
  rw [word?, Option.filter_eq_some_iff, nat?_eq_some_iff, decide_eq_true_iff]
  exact and_congr_right fun _ => Nat.lt_iff_le_pred (Nat.two_pow_pos 64)

/-! ## Printing -/

theorem spells_repr (n : ℕ) : Spells n.repr.toList n := by
  rw [Nat.toList_repr]
  exact ⟨Nat.toDigits_ne_nil, fun _ => Nat.isDigit_of_mem_toDigits (by decide) (by decide), Nat.ofDigitChars_ten_toDigits⟩

end Stagecraft.Digits
