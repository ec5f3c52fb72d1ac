/-
Gates with an axis. The value of such a gate is clamped before it is tested, and it is clamped to the two bounds that it is tested
against. So where both bounds are set, a value outside the range is moved to the bound that it passed, the range holds its bounds,
and the gate passes: it fails only where there is no number to test.

- `inRange_clamp`: what the range test says of a clamped value.
- `shaped_alike`: the shaped value, apart from the zeros that are added to it.
- `passes_clamped`, `acts_iff_passes`: the test of a gate, and what it does to a sweep.
- `gates_on_any_number`: all of it, for the sweep and for the clock.
-/
import Mathlib.Tactic
import Stagecraft.Animation.Validation
import Stagecraft.Proofs.Channel.Stack
import Stagecraft.Proofs.Clock.Advance
import Stagecraft.Proofs.Number.Order

namespace Stagecraft

/-! ## Clamping and testing -/

namespace Shape

/-- there is something to test: the value and both bounds are numbers -/
def Comparable (s : Shape Float) (x : Float) : Prop := x.isNaN = false ∧ s.clampMin.isNaN = false ∧ s.clampMax.isNaN = false

instance (s : Shape Float) : DecidablePred s.Comparable := fun _ => inferInstanceAs (Decidable (_ ∧ _ ∧ _))

/-- both bounds are set -/
def IsBounded (s : Shape Float) : Prop := Scalar.isZero s.clampMin = false ∧ Scalar.isZero s.clampMax = false

instance : DecidablePred IsBounded := fun _ => inferInstanceAs (Decidable (_ ∧ _))

theorem inRange_iff (s : Shape Float) (x : Float) : s.inRange x = true ↔ s.clampMin ≤ x ∧ x ≤ s.clampMax := by
  rw [inRange, Bool.and_eq_true, decide_eq_true_iff, decide_eq_true_iff]

/-- what passes the range test is a number between numbers -/
theorem comparable_of_inRange {s : Shape Float} {x : Float} (h : s.inRange x = true) : s.Comparable x := by
  obtain ⟨hlow, hhigh⟩ := (s.inRange_iff x).1 h
  exact ⟨(Double.isNaN_of_le hhigh).1, (Double.isNaN_of_le hlow).1, (Double.isNaN_of_le hhigh).2⟩

/-- a value is clamped to the bound that it passes -/
theorem clamp_eq {s : Shape Float} (hs : s.IsBounded) (x : Float) :
    s.clamp x = if x < s.clampMin then s.clampMin else if s.clampMax < x then s.clampMax else x := by
  simp only [clamp, hs.1, hs.2, Bool.not_false, Bool.true_and, decide_eq_true_eq]

/-- **A clamped value in its range.** Between two bounds in order, every number is in range once it is clamped. -/
theorem inRange_clamp {s : Shape Float} (hs : s.IsBounded) (hordered : s.crossed = false) (x : Float) :
    s.inRange (s.clamp x) = true ↔ s.Comparable x := by
  have hcross : ¬s.clampMax < s.clampMin := by
    simpa [crossed, hs.1, hs.2] using hordered
  rw [clamp_eq hs]
  constructor
  · intro h
    obtain ⟨hclamped, hmin, hmax⟩ := comparable_of_inRange h
    refine ⟨?_, hmin, hmax⟩
    split_ifs at hclamped with hbelow habove
    · exact (Double.isNaN_of_lt hbelow).1
    · exact (Double.isNaN_of_lt habove).2
    · exact hclamped
  · rintro ⟨hx, hmin, hmax⟩
    rw [inRange_iff]
    split_ifs with hbelow habove
    · exact ⟨Double.le_refl hmin, Double.le_of_not_lt hmin hmax hcross⟩
    · exact ⟨Double.le_of_not_lt hmin hmax hcross, Double.le_refl hmax⟩
    · exact ⟨Double.le_of_not_lt hmin hx hbelow, Double.le_of_not_lt hx hmax habove⟩

/-- what no comparison tells apart is clamped to what no comparison tells apart -/
theorem clamp_alike {s : Shape Float} (hs : s.IsBounded) {x y : Float} (h : Double.Alike x y) :
    Double.Alike (s.clamp x) (s.clamp y) := by
  rw [clamp_eq hs, clamp_eq hs]
  simp only [h.lt_iff, h.gt_iff]
  split_ifs
  · exact .refl _
  · exact .refl _
  · exact h

theorem inRange_alike (s : Shape Float) {x y : Float} (h : Double.Alike x y) : s.inRange x = s.inRange y := by
  rw [Bool.eq_iff_iff, inRange_iff, inRange_iff, h.le_iff, h.ge_iff]

end Shape

/-! ## Gates -/

/-- a gate with an axis and two bounds, and neither an offset nor magnitudes -/
structure Animation.Clamps (a : Animation Float) (axis : Axis Float) : Prop where
  gates : a.kind.isGate = true
  axis_eq : a.axis = some axis
  no_offset : Scalar.isZero a.offset = true
  not_absolute : a.absolute = false
  bounded : a.IsBounded

namespace Animation.Clamps

variable {a : Animation Float} {axis : Axis Float}

/-- its shaped value is the clamped one, apart from the zeros that are added on the way -/
theorem shaped_alike (h : a.Clamps axis) (raw : Float) :
    Double.Alike (a.apply (Float.ofNat 0) raw) (a.clamp (axis.length * raw)) := by
  have hshaped : a.apply (Float.ofNat 0) raw = a.clamp (axis.length * raw + a.offset + Float.ofNat 0) := by
    simp [Shape.apply, h.axis_eq, Shape.rectify, h.not_absolute]
  rw [hshaped]
  apply Shape.clamp_alike h.bounded
  exact (Double.add_zero_alike (by decide) _).trans (Double.add_zero_alike h.no_offset _)

/-- its test is passed by every number -/
theorem passes_iff (h : a.Clamps axis) (hvalid : a.isValid = true) (raw : Float) :
    a.passes (a.apply (Float.ofNat 0) raw) = true ↔ a.Comparable (axis.length * raw) := by
  have hordered : a.crossed = false := (a.fault?_eq_none_iff.1 (a.isValid_iff.1 hvalid)).2.2
  have htest : a.passes (a.apply (Float.ofNat 0) raw) = a.inRange (a.clamp (axis.length * raw)) := by
    unfold passes
    split
    · exact a.inRange_alike ((Double.zero_add_alike h.no_offset _).trans (h.shaped_alike raw))
    · exact a.inRange_alike (h.shaped_alike raw)
  rw [htest]
  exact Shape.inRange_clamp h.bounded hordered _

end Animation.Clamps

/-- a track that does not smooth tests the answer as it is -/
theorem Track.passes_of_answer {s : Sampling} {t : Track} (hsmooths : t.animation.smooths = false) {raw : Float}
    (hraw : s.resolve t.animation.source = some raw) :
    t.passes s = t.animation.passes (t.animation.apply (Float.ofNat 0) raw) := by
  have hunshaped : t.unshaped s = raw := by
    simp only [unshaped, hraw, input, Clock.effective_of_not_smooths _ hsmooths]
  rw [passes, hunshaped]

/-- what a gate does to a sweep when its test passes: an inhibitor inhibits, an activator frees, a visibility keeps the gate open -/
def Sweep.Acts {σ : Type} (kind : Kind) (behind : Progress σ × Bool) : Prop :=
  match kind with
  | .inhibitor => behind.1.inhibited = true
  | .activator => behind.1.inhibited = false
  | _ => behind.2 = true

theorem Sweep.acts_iff_passes {σ : Type} (s : Sampling) (use : Use σ) (p : Progress σ) (index : ℕ) {t : Track}
    (hgate : t.animation.kind.isGate = true) :
    Acts t.animation.kind (next s use p index t) ↔ t.passes s = true := by
  have hpasses := passes_sampled s use p hgate
  unfold next after Acts
  cases hkind : t.animation.kind with
  | visibility => simp only [hpasses]
  | inhibitor => simp only [hpasses]
  | activator => simp only [hpasses, Bool.not_eq_false']
  | _ => simp [hkind, Kind.isGate] at hgate

/-- **Gates on any number.** Take a gate with an axis, two set bounds in order, no offset, no magnitudes and no smoothing, and an
answer. Its shaped value is the product of the length of the axis and the answer, moved to the bound that it passes. So whatever the
reading and wherever the gate is reached, it acts if and only if the product and the bounds are numbers, in range or not; and the
signal that its clock takes is on just then. -/
theorem gates_on_any_number (s : Sampling) (t : Track) (axis : Axis Float) (hclamps : t.animation.Clamps axis)
    (hvalid : t.animation.isValid = true) (hsmooths : t.animation.smooths = false) (v : Float)
    (hv : s.resolve t.animation.source = some v) :
    let a := t.animation
    let x := axis.length * v
    Double.Alike (a.apply (Float.ofNat 0) v) (if x < a.clampMin then a.clampMin else if a.clampMax < x then a.clampMax else x) ∧
      (∀ {σ : Type} (use : Use σ) (p : Progress σ) (index : ℕ),
        Sweep.Acts a.kind (Sweep.next s use p index t) ↔ a.Comparable x) ∧
      (a.signal v = true ↔ a.Comparable x) := by
  intro a x
  refine ⟨?_, ?_, ?_⟩
  · rw [← Shape.clamp_eq hclamps.bounded]
    exact hclamps.shaped_alike v
  · intro σ use p index
    rw [Sweep.acts_iff_passes s use p index hclamps.gates, Track.passes_of_answer hsmooths hv]
    exact hclamps.passes_iff hvalid v
  · rw [a.signal_gate hclamps.gates]
    exact hclamps.passes_iff hvalid v

/-- a valve that is to act from 1 to 3, at twice the pressure -/
def valve (kind : Kind) : Track where
  animation := { Animation.plain kind "pressure" with axis := some ⟨0, 2, 0⟩, clampMin := 1, clampMax := 3 }
  curve := .linear

/-- the same with an axis so long that its length is infinite -/
def longValve : Track := { valve .visibility with animation := { (valve .visibility).animation with axis := some ⟨1e200, 0, 0⟩ } }

/-- at a pressure of 10 an inhibiting valve is held at 3 and inhibits; the long one closes at a pressure of 0 and is open at 10 -/
theorem gates_on_any_number_valve :
    let s : Sampling := ⟨.tick, fun _ => some 10⟩
    let still : Sampling := ⟨.frame, fun _ => some 0⟩
    (valve .inhibitor).animation.Clamps ⟨0, 2, 0⟩ ∧ (valve .inhibitor).animation.isValid = true ∧
      (valve .inhibitor).animation.smooths = false ∧ s.resolve "pressure" = some 10 ∧
      (Sweep.next s Use.gate { sum := () } 0 (valve .inhibitor)).1.inhibited = true ∧
      Double.Alike ((valve .inhibitor).animation.apply (Float.ofNat 0) 10) 3 ∧
      longValve.animation.Clamps ⟨1e200, 0, 0⟩ ∧ longValve.animation.isValid = true ∧
      (Sweep.next still Use.gate { sum := () } 0 longValve).2 = false ∧
      (Sweep.next s Use.gate { sum := () } 0 longValve).2 = true := by
  intro s still
  have hclamps : (valve .inhibitor).animation.Clamps ⟨0, 2, 0⟩ := ⟨rfl, rfl, by decide, rfl, by decide +kernel⟩
  have hlong : longValve.animation.Clamps ⟨1e200, 0, 0⟩ := ⟨rfl, rfl, by decide, rfl, by decide +kernel⟩
  obtain ⟨hheld, hacts, -⟩ := gates_on_any_number s (valve .inhibitor) _ hclamps (by decide +kernel) rfl 10 (by decide +kernel)
  obtain ⟨-, hcloses, -⟩ := gates_on_any_number still longValve _ hlong (by decide +kernel) rfl 0 (by decide +kernel)
  obtain ⟨-, hopens, -⟩ := gates_on_any_number s longValve _ hlong (by decide +kernel) rfl 10 (by decide +kernel)
  refine ⟨hclamps, by decide +kernel, rfl, by decide +kernel, ?_, ?_, hlong, by decide +kernel, ?_, ?_⟩
  · exact (hacts Use.gate { sum := () } 0).2 (by decide +kernel)
  · rwa [if_neg (by decide +kernel), if_pos (by decide +kernel)] at hheld
  · exact Bool.eq_false_iff.2 fun hopen => absurd ((hcloses Use.gate { sum := () } 0).1 hopen) (by decide +kernel)
  · exact (hopens Use.gate { sum := () } 0).2 (by decide +kernel)

/-- **Out of range and open.** The valve is accepted as it is, and twice a pressure of 10 is far above its range; yet as a visibility
it keeps its gate open, as an inhibitor it inhibits, as an activator it frees an inhibited channel, and its clock is engaged. -/
theorem valve_acts_out_of_range :
    let s : Sampling := ⟨.tick, fun _ => some 10⟩
    let a := (valve .visibility).animation
    a.isValid = true ∧ a.smooths = false ∧ (10 : Float).isFinite = true ∧
      a.inRange ((⟨0, 2, 0⟩ : Axis Float).length * 10) = false ∧
      (Channel.gate s [valve .visibility]).result = ⟨true, false, true⟩ ∧
      (Channel.gate s [valve .inhibitor]).result = ⟨true, true, false⟩ ∧
      (Channel.gate s [valve .inhibitor, valve .activator]).result = ⟨true, false, false⟩ ∧
      (Channel.gate s [valve .visibility]).channel.map (·.clock.engaged) = [true] := by
  decide +kernel

end Stagecraft
