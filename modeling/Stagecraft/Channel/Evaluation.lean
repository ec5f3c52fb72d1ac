/-
The four readings of a channel.

- `gate`: open or closed; moving tracks are not read.
- `brightness`: a single in [0, 1]. A translation multiplies the brightness if its axis has an x, adds to it if its axis
  has a y, and replaces it otherwise. Without any, a channel that is not inhibited is fully bright.
- `level`: a volume or a pitch, not negative. A translation adds its value, a rotation adds a parabola of it; both ride
  on minus their offset and add it back. Without any, the level is 1.
- `pose`: the steps of a moving object, none while its gate is closed.
-/
import Stagecraft.Channel.Sweep
import Stagecraft.Number.Single

namespace Stagecraft

/-- a reading of a channel, the channel after it, and the names asked for in order -/
structure Evaluation (ρ : Type) where
  result : ρ
  channel : Channel
  asked : List String

structure PoseStep where
  /-- the place of the animation in its channel -/
  animation : Nat
  kind : Kind
  axis : Axis Float
  value : Float
  /-- whether the value rides on the step of the same kind before it -/
  stacked : Bool
deriving DecidableEq, Repr

structure Pose where
  visible : Bool
  steps : List PoseStep
deriving DecidableEq, Repr

namespace Animation

/-- the axis of an animation, zero if it names none -/
def axisOrZero (a : Animation Float) : Axis Float := a.axis.getD Axis.zero

end Animation

namespace Use

/-- no moving track counts -/
def gate : Use Unit where
  reads _ := false
  stacking _ _ := Float.ofNat 0
  add sum _ _ _ := sum

/-- the brightness with one more translation; nothing yet counts as 0 -/
def light (sum : Option Float) (a : Animation Float) (value : Float) : Float :=
  let axis := a.axisOrZero
  let level := sum.getD (Float.ofNat 0)
  if !Scalar.isZero axis.x then level * value
  else if !Scalar.isZero axis.y then level + value
  else value

/-- translations count, none before the first -/
def brightness : Use (Option Float) where
  reads := (· = .translation)
  stacking _ _ := Float.ofNat 0
  add sum _ a value := some (light sum a value)

/-- what one animation adds to a level -/
def term (a : Animation Float) (value : Float) : Float :=
  let axis := a.axisOrZero
  let v := Scalar.sign axis.y * value
  match a.kind with
  | .rotation => axis.x * ((v - axis.z) * (v - axis.z)) + a.offset
  | _ => v + a.offset

/-- translations and rotations count, none before the first -/
def level : Use (Option Float) where
  reads kind := kind = .translation || kind = .rotation
  stacking _ a := -a.offset
  add sum _ a value := some (sum.getD (Float.ofNat 0) + term a value)

/-- the value of the last step of a kind, 0 without one -/
def lastOfKind (steps : List PoseStep) (kind : Kind) : Float :=
  ((steps.reverse.find? (·.kind = kind)).map (·.value)).getD (Float.ofNat 0)

/-- every moving track counts -/
def pose : Use (List PoseStep) where
  reads _ := true
  stacking steps a := if a.rides then lastOfKind steps a.kind else Float.ofNat 0
  add steps index a value := steps ++ [⟨index, a.kind, a.axisOrZero, value, a.rides⟩]

end Use

namespace Channel

/-- a sweep from its start, read by `settle` -/
def evaluate {σ ρ : Type} (s : Sampling) (use : Use σ) (start : σ) (settle : Gate → σ → ρ) (c : Channel) :
    Evaluation ρ :=
  let o := Sweep.run s use { sum := start } 0 c
  ⟨settle o.gate o.sum, o.channel, o.asked⟩

def gate (s : Sampling) (c : Channel) : Evaluation Gate := c.evaluate s Use.gate () fun g _ => g

/-- a brightness held to 1; a NaN becomes 1 as well -/
def capped (x : Float32) : Float32 := if x < 1 then x else 1

/-- the brightness of a gate and its sum -/
def settleBrightness (g : Gate) : Option Float → Float32
  | none => if g.isOpen && !g.inhibited then 1 else 0
  | some level => if !g.isOpen || decide (level < Float.ofNat 0) then 0 else capped (Single.nearest level)

def brightness (s : Sampling) (c : Channel) : Evaluation Float32 := c.evaluate s Use.brightness none settleBrightness

/-- the level of a gate and its sum; a NaN becomes 0 -/
def settleLevel (g : Gate) (sum : Option Float) : Float :=
  if !g.isOpen then Float.ofNat 0
  else match sum with
    | none => Float.ofNat 1
    | some level => if Float.ofNat 0 < level then level else Float.ofNat 0

def level (s : Sampling) (c : Channel) : Evaluation Float := c.evaluate s Use.level none settleLevel

/-- the pose of a gate and its steps -/
def settlePose (g : Gate) (steps : List PoseStep) : Pose := ⟨g.isOpen, if g.isOpen then steps else []⟩

def pose (s : Sampling) (c : Channel) : Evaluation Pose := c.evaluate s Use.pose [] settlePose

/-- one track alone, riding on `stacking`; none past the end of the channel -/
def sampleAt? (s : Sampling) (stacking : Float) (index : Nat) (channel : Channel) :
    Option (Evaluation Sample) :=
  channel[index]?.map fun t =>
    let (t, sample) := t.sample s stacking
    ⟨sample, channel.set index t, [t.animation.source]⟩

end Channel

end Stagecraft
