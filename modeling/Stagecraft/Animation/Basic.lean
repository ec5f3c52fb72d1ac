/-
Animations: one variable, how its value is shaped, and how it is smoothed.

With an axis, a value is scaled by the axis length, moved by the offset and by whatever the animation stacks on, and
clamped on each side whose bound is not zero. Without an axis it passes through. `absolute` takes the magnitude of both
the input and the result. A gate asks whether the shaped value lies between the bounds, and there a zero bound is a
bound like any other.
-/
import Stagecraft.Number.Scalar

namespace Stagecraft

/-- what an animation does; the first three gate, the last three move -/
inductive Kind where
  | visibility
  | inhibitor
  | activator
  | translation
  | rotation
  | scaling
deriving DecidableEq, Repr

/-- gates never move anything -/
def Kind.isGate : Kind → Bool
  | .visibility | .inhibitor | .activator => true
  | .translation | .rotation | .scaling => false

/-- a direction with a length -/
structure Axis (α : Type) where
  x : α
  y : α
  z : α
deriving DecidableEq, Repr

namespace Axis

variable {α : Type} [Scalar α]

/-- the axis of an animation that names none -/
def zero : Axis α := ⟨Scalar.ofNat 0, Scalar.ofNat 0, Scalar.ofNat 0⟩

def length {α : Type} [RootScalar α] (a : Axis α) : α := RootScalar.sqrt (a.x * a.x + a.y * a.y + a.z * a.z)

end Axis

/-- how a value is shaped -/
structure Shape (α : Type) where
  /-- absent for a pure gate -/
  axis : Option (Axis α)
  offset : α
  clampMin : α
  clampMax : α
  absolute : Bool
deriving DecidableEq, Repr

namespace Shape

variable {α : Type} [Scalar α]

/-- the magnitude of a value, if the shape asks for it -/
def rectify (s : Shape α) (v : α) : α := if s.absolute then Scalar.abs v else v

/-- the value held between the bounds that are not zero -/
def clamp (s : Shape α) (v : α) : α :=
  if !Scalar.isZero s.clampMin && decide (v < s.clampMin) then s.clampMin
  else if !Scalar.isZero s.clampMax && decide (s.clampMax < v) then s.clampMax
  else v

/-- a raw value shaped, riding on `stacking` -/
def apply {α : Type} [RootScalar α] (s : Shape α) (stacking raw : α) : α :=
  match s.axis with
  | none => s.rectify raw
  | some axis => s.rectify (s.clamp (axis.length * s.rectify raw + s.offset + stacking))

/-- between the bounds, both included -/
def inRange (s : Shape α) (v : α) : Bool := decide (s.clampMin ≤ v) && decide (v ≤ s.clampMax)

end Shape

/-- the smoothing of an animation in ticks, as written; negative lengths count as zero -/
structure Timing where
  /-- the length of the ramp -/
  duration : Int32
  /-- how long the level holds after the signal is gone -/
  delay : Int32
deriving DecidableEq, Repr

namespace Timing

def durationTicks (t : Timing) : Nat := t.duration.toInt.toNat

def delayTicks (t : Timing) : Nat := t.delay.toInt.toNat

/-- the ticks from nothing to full, at least one -/
def span (t : Timing) : Nat := max t.durationTicks 1

/-- whether the level takes the place of the raw value -/
def smooths (t : Timing) : Bool := 0 < t.durationTicks || 0 < t.delayTicks

end Timing

/-- one animation of a channel -/
structure Animation (α : Type) extends Shape α, Timing where
  kind : Kind
  /-- the variable that drives it -/
  source : String
  /-- ride on the last transform of the same kind -/
  rides : Bool
deriving DecidableEq, Repr

/-- an animation with nothing set but its kind and its variable -/
def Animation.plain {α : Type} [Scalar α] (kind : Kind) (source : String) : Animation α :=
  { axis := none, offset := Scalar.ofNat 0, clampMin := Scalar.ofNat 0, clampMax := Scalar.ofNat 0, absolute := false
    duration := 0, delay := 0, kind, source, rides := false }

end Stagecraft
