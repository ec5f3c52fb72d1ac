/-
What an animation must satisfy when a pack is loaded: a good variable name, no negative timing, and bounds in order
where both are set (a zero bound is not set). The first fault in this order counts.
-/
import Stagecraft.Animation.Basic
import Stagecraft.Number.Decimal
import Stagecraft.Variable.Name

namespace Stagecraft

inductive AnimationFault (α : Type) where
  | name (fault : NameFault)
  | negativeTiming (source : String) (duration delay : Int32)
  | clampRange (source : String) (min max : α)
deriving DecidableEq, Repr

def AnimationFault.message : AnimationFault Float → String
  | .name fault => fault.message
  | .negativeTiming source duration delay =>
    let (duration, delay) := (toString duration.toInt, toString delay.toInt)
    s!"variable '{source}': duration and delay must not be negative (duration {duration}, delay {delay})"
  | .clampRange source min max =>
    let (min, max) := (Decimal.shortest min, Decimal.shortest max)
    s!"variable '{source}': clampMin {min} is greater than clampMax {max}"

/-- both bounds are set, and the lower one is above the upper one -/
def Shape.crossed {α : Type} [Scalar α] (s : Shape α) : Bool :=
  !Scalar.isZero s.clampMin && !Scalar.isZero s.clampMax && decide (s.clampMax < s.clampMin)

namespace Animation

variable {α : Type} [Scalar α]

/-- the first fault of an animation -/
def fault? (a : Animation α) : Option (AnimationFault α) :=
  match VariableName.fault? a.source with
  | some e => some (.name e)
  | none =>
    if a.duration < 0 ∨ a.delay < 0 then some (.negativeTiming a.source a.duration a.delay)
    else if a.toShape.crossed then some (.clampRange a.source a.clampMin a.clampMax)
    else none

/-- an animation that a pack may hold -/
def isValid (a : Animation α) : Bool := a.fault?.isNone

theorem isValid_iff (a : Animation α) : a.isValid = true ↔ a.fault? = none := Option.isNone_iff_eq_none

theorem fault?_eq_none_iff (a : Animation α) :
    a.fault? = none ↔ VariableName.fault? a.source = none ∧ ¬(a.duration < 0 ∨ a.delay < 0) ∧ a.crossed = false := by
  rw [fault?]
  cases VariableName.fault? a.source with
  | some fault => simp
  | none =>
    by_cases htiming : a.duration < 0 ∨ a.delay < 0
    · simp [htiming]
    · by_cases hcrossed : a.crossed = true <;> simp [htiming, hcrossed]

end Animation

end Stagecraft
