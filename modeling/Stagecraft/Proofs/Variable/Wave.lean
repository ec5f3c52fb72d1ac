/-
The wave of a cycle. Its period is the sum of its words, if that is a word; then the window from off to off and on lies within the
period, and the wave is on strictly inside it: for one tick less than the cycle tells, in every stretch of a period. A sum that is
no word is cut short, so that the window may reach beyond the period; the wave is on as far as there are remainders in it.

- `valueAt_eq`: the wave at a tick, by its remainder.
- `card_on`: how often it is on in a stretch of a period, wherever that begins.
- `waves`: all of it, for the cycles that are read off a name.
-/
import Mathlib.Tactic
import Mathlib.Data.Nat.Periodic
import Stagecraft.Proofs.Variable.Cycle

namespace Stagecraft.Cycle

open Finset

variable {c : Cycle}

theorem isOn_iff (c : Cycle) (tick : ℕ) : c.isOn tick = true ↔ c.off < tick % c.total ∧ tick % c.total - c.off < c.on := by
  simp [isOn]

theorem valueAt_eq (c : Cycle) (tick : ℕ) :
    c.valueAt tick = if c.off < tick % c.total ∧ tick % c.total - c.off < c.on then Float.ofNat 1 else Float.ofNat 0 := by
  rw [valueAt]
  exact if_congr (c.isOn_iff tick) rfl rfl

theorem valueAt_eq_one_iff (c : Cycle) (tick : ℕ) : c.valueAt tick = Float.ofNat 1 ↔ c.isOn tick = true := by
  have hne : Float.ofNat 0 ≠ Float.ofNat 1 := by decide
  rw [valueAt]
  split_ifs with hon
  · simp [hon]
  · simp [hon, hne]

theorem isOn_periodic (c : Cycle) : Function.Periodic (fun tick => c.isOn tick = true) c.total := by
  intro tick
  simp only [isOn_iff, Nat.add_mod_right]

/-- within a period, the wave is on strictly inside the window -/
theorem filter_isOn (h : c.off + c.on ≤ c.total) : (range c.total).filter (fun tick => c.isOn tick = true) =
    Ioo c.off (c.off + c.on) := by
  ext tick
  rw [mem_filter, mem_range, mem_Ioo, isOn_iff]
  constructor
  · rintro ⟨hin, hwindow⟩
    rw [Nat.mod_eq_of_lt hin] at hwindow
    omega
  · intro hwindow
    have hin : tick < c.total := by omega
    rw [Nat.mod_eq_of_lt hin]
    omega

/-- a stretch of a period holds the wave on for one tick less than the cycle tells -/
theorem card_on (h : c.off + c.on ≤ c.total) (start : ℕ) :
    ((Ico start (start + c.total)).filter fun tick => c.valueAt tick = Float.ofNat 1).card = c.on - 1 := by
  simp only [valueAt_eq_one_iff]
  rw [Nat.filter_Ico_card_eq_of_periodic _ _ _ c.isOn_periodic, Nat.count_eq_card_filter_range, filter_isOn h, Nat.card_Ioo,
    Nat.add_sub_cancel_left]

/-- **Waves.** A cycle that is read off a name has a value at every tick, which is found without leaving the words. If the sum of the
words is a word, then the period repeats, every stretch of a period has the wave on for one tick less than the cycle tells, and these
ticks are in a row behind the off ticks of each period, within the period. If it is not, the period is the last word, and the wave is
on where the remainder is past the off ticks by less than the on ticks. -/
theorem waves {name : String} {c : Cycle} (h : parse name = .ok c) :
    ∃ words, (∀ others, Spells name others ↔ others = words) ∧ (∀ tick, c.isOn? tick = some (c.isOn tick)) ∧
      (words.sum ≤ Word.last 64 →
        (∀ tick, c.valueAt (tick + c.total) = c.valueAt tick) ∧
        (∀ start, ((Ico start (start + c.total)).filter fun tick => c.valueAt tick = Float.ofNat 1).card = c.on - 1) ∧
        c.off + c.on ≤ c.total ∧
        ∀ round position, position < c.total → c.valueAt (c.total * round + position) =
          if position ∈ Icc (c.off + 1) (c.off + c.on - 1) then Float.ofNat 1 else Float.ofNat 0) ∧
      (Word.last 64 < words.sum → c.total = Word.last 64 ∧
        ∀ tick, c.valueAt tick =
          if c.off < tick % Word.last 64 ∧ tick % Word.last 64 - c.off < c.on then Float.ofNat 1 else Float.ofNat 0) := by
  have hpos : 0 < c.total := (parse_word h).2.2.2
  obtain ⟨off, on, more, hspells, -, rfl⟩ := words_of_parse h
  set c := ofWords off on more
  have htotal : c.total = min (off :: on :: more).sum (Word.last 64) := rfl
  have hwords : ∀ others, Spells name others ↔ others = off :: on :: more := fun others =>
    ⟨spells_unique hspells, fun heq => heq ▸ hspells⟩
  refine ⟨off :: on :: more, hwords, isOn?_eq hpos, fun hword => ?_, fun hcut => ?_⟩
  · have hwindow : c.off + c.on ≤ c.total := by
      have hoff : c.off + c.on = off + on := rfl
      rw [htotal, min_eq_left hword, hoff, List.sum_cons, List.sum_cons]
      omega
    refine ⟨fun tick => ?_, card_on hwindow, hwindow, fun round position hin => ?_⟩
    · rw [valueAt_eq, valueAt_eq, Nat.add_mod_right]
    · have hinside : c.off < position ∧ position - c.off < c.on ↔ position ∈ Icc (c.off + 1) (c.off + c.on - 1) := by
        rw [mem_Icc]
        omega
      rw [valueAt_eq, Nat.mul_add_mod, Nat.mod_eq_of_lt hin]
      exact if_congr hinside rfl rfl
  · have hlast : c.total = Word.last 64 := htotal.trans (min_eq_right hcut.le)
    exact ⟨hlast, fun tick => hlast ▸ c.valueAt_eq tick⟩

/-- a lighthouse that is dark for two ticks out of ten and lit for three shines in two of any ten ticks; one that is to be lit for as
long as a word can tell has its period cut short, and is dark again when that is over -/
theorem waves_lighthouse :
    let c : Cycle := ⟨2, 3, 10⟩
    let long : Cycle := ⟨5, Word.last 64, Word.last 64⟩
    parse "2_3_4_1_cycle" = .ok c ∧ ((Ico 7 17).filter fun tick => c.valueAt tick = Float.ofNat 1).card = 2 ∧
      c.valueAt 14 = Float.ofNat 1 ∧ c.valueAt 15 = Float.ofNat 0 ∧ parse "5_18446744073709551615_cycle" = .ok long ∧
      long.valueAt (Word.last 64 - 1) = Float.ofNat 1 ∧ long.valueAt (Word.last 64) = Float.ofNat 0 := by
  intro c long
  have hspells : Spells "2_3_4_1_cycle" [2, 3, 4, 1] := @spells_repr [2, 3, 4, 1] (by simp) (by decide)
  have hlong : Spells "5_18446744073709551615_cycle" [5, Word.last 64] := @spells_repr [5, Word.last 64] (by simp) (by decide)
  have hparse : parse "2_3_4_1_cycle" = .ok c := parse_of_words hspells ⟨2, by simp, by decide⟩
  have hparse' : parse "5_18446744073709551615_cycle" = .ok long := parse_of_words hlong ⟨5, by simp, by decide⟩
  obtain ⟨words, hwords, -, hwhole, -⟩ := waves hparse
  obtain ⟨words', hwords', -, -, hcut⟩ := waves hparse'
  obtain rfl := (hwords _).1 hspells
  obtain rfl := (hwords' _).1 hlong
  obtain ⟨-, hcount, -, hshape⟩ := hwhole (by decide)
  obtain ⟨-, hvalue⟩ := hcut (by decide)
  refine ⟨hparse, hcount 7, (hshape 1 4 (by decide)).trans (if_pos (by decide)),
    (hshape 1 5 (by decide)).trans (if_neg (by decide)), hparse', ?_, ?_⟩
  · exact (hvalue _).trans (if_pos (by decide))
  · exact (hvalue _).trans (if_neg (by decide))

end Stagecraft.Cycle
