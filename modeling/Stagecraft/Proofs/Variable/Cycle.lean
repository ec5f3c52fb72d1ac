/-
Cycle names, read twice: once when a pack is loaded, and again whenever one is asked for. Both readings take the same names, so
that a name that was let in has a value ever after; the value is 0 or 1, and is computed without leaving the 64-bit words.

- `parse_word`: the numbers of a cycle are words, and its period is not zero.
- `isOn?_eq`: in words, the remainder and the difference of the wave exist at every tick.
- `scope_cycle`: the value of a cycle name in a world.
- `isSome_scope_iff`: there is one if and only if the name has no fault.
-/
import Mathlib.Tactic
import Stagecraft.Number.Word
import Stagecraft.Proofs.Variable.Grammar
import Stagecraft.Variable.Name
import Stagecraft.Variable.World

namespace Stagecraft

namespace Cycle

/-! ## In words of 64 bits -/

/-- the numbers of a cycle that a name spells are words, and its period is not zero -/
theorem parse_word {name : String} {c : Cycle} (h : parse name = .ok c) :
    c.off ≤ Word.last 64 ∧ c.on ≤ Word.last 64 ∧ c.total ≤ Word.last 64 ∧ 0 < c.total := by
  obtain ⟨off, on, more, hspells, ⟨n, hn, hpos⟩, rfl⟩ := words_of_parse h
  have hword := hspells.le_last
  have hsum : n ≤ (off :: on :: more).sum := List.le_sum_of_mem hn
  exact ⟨hword off (by simp), hword on (by simp), Nat.min_le_right _ _,
    lt_min (Nat.lt_of_lt_of_le (Nat.pos_of_ne_zero hpos) hsum) (by decide)⟩

/-- the wave in words: the difference is taken after `off` only -/
def isOn? (c : Cycle) (tick : Nat) : Option Bool := do
  let t ← Word.rem? tick c.total
  if c.off < t then
    let past ← Word.sub? t c.off
    return decide (past < c.on)
  else return false

theorem isOn?_eq {c : Cycle} (h : 0 < c.total) (tick : Nat) : c.isOn? tick = some (c.isOn tick) := by
  rw [isOn?, Word.rem?_of_pos h]
  by_cases hoff : c.off < tick % c.total
  · simp [isOn, hoff, Word.sub?_of_le hoff.le]
  · simp [isOn, hoff]

theorem valueAt_binary (c : Cycle) (tick : Nat) : c.valueAt tick = Float.ofNat 0 ∨ c.valueAt tick = Float.ofNat 1 := by
  unfold valueAt
  split_ifs
  · exact .inr rfl
  · exact .inl rfl

end Cycle

/-! ## Two readings of a name -/

namespace World

theorem isName_builtin : ∀ name ∈ builtinNames, Cycle.isName name = false := by
  decide

/-- a cycle name is none of the built-in names -/
theorem lookup_cycle {name : String} (h : Cycle.isName name = true) : builtins.lookup name = none := by
  rw [List.lookup_eq_none_iff]
  intro p hp
  rw [bne_iff_ne]
  rintro rfl
  exact Bool.false_ne_true ((isName_builtin p.1 (List.mem_map_of_mem hp)).symm.trans h)

/-- the value of a cycle name is the wave that it spells, if it spells one -/
theorem scope_cycle (w : World) (partialTick : Float32) {name : String} (h : Cycle.isName name = true) :
    w.scope partialTick name = (Cycle.parse name).toOption.map (·.valueAt w.tick) := by
  simp only [scope, lookup_cycle h, cycle?, h, if_true]

end World

namespace VariableName

/-- a cycle name has a fault if and only if it spells no cycle -/
theorem fault?_eq_none_iff {name : String} (h : Cycle.isName name = true) :
    fault? name = none ↔ ∃ c, Cycle.parse name = .ok c := by
  have hsome : name.isEmpty = false := by
    rw [Bool.eq_false_iff]
    intro hempty
    rw [String.isEmpty_iff.1 hempty] at h
    exact absurd h (by decide)
  rw [fault?, hsome, h]
  cases Cycle.parse name with
  | error fault => simp
  | ok c => simp

/-- **Two readings.** Of a name with the suffix of a cycle, no fault is found if and only if a world has a value for it. -/
theorem isSome_scope_iff (w : World) (partialTick : Float32) {name : String} (h : Cycle.isName name = true) :
    fault? name = none ↔ (w.scope partialTick name).isSome := by
  rw [fault?_eq_none_iff h, w.scope_cycle partialTick h, Option.isSome_map]
  cases Cycle.parse name with
  | error fault => simp [Except.toOption]
  | ok c => simp [Except.toOption]

end VariableName

end Stagecraft
