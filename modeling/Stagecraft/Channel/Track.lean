/-
Tracks and channels. A track is an animation with its clock; a channel is an ordered list of tracks that together decide
one gate, one level or one pose.

Sampling a track asks for its variable, lets the clock take the signal (in a tick; a frame only reads the clock), and
shapes the level or the raw value. A variable without an answer, or with a NaN for one, counts as 0 for the value and
leaves the signal of the clock as it was, so it never makes an edge.
-/
import Stagecraft.Animation.Clock

namespace Stagecraft

/-- an animation with its clock, and the curve that its level follows -/
structure Track where
  animation : Animation Float
  curve : Curve
  clock : Clock := .fresh
deriving DecidableEq, Repr

/-- the tracks of one channel, in order -/
abbrev Channel := List Track

/-- a channel with new clocks, all of one curve -/
def Channel.ofAnimations (curve : Curve) (as : List (Animation Float)) : Channel :=
  as.map fun animation => { animation, curve }

/-- a tick moves clocks, a frame reads them -/
inductive View where
  | tick
  | frame
deriving DecidableEq, Repr

/-- what an evaluation of a channel depends on -/
structure Sampling where
  view : View
  lookup : String → Option Float

/-- the answer to a name; a NaN is no answer -/
def Sampling.resolve (s : Sampling) (name : String) : Option Float := (s.lookup name).filter fun v => !v.isNaN

/-- one sampled track -/
structure Sample where
  value : Float
  /-- the clock turned its signal over in this tick -/
  moved : Bool
deriving DecidableEq, Repr

namespace Animation

/-- a gate tests its shaped value; a visibility adds its offset first -/
def passes (a : Animation Float) (value : Float) : Bool :=
  match a.kind with
  | .visibility => a.inRange (a.offset + value)
  | _ => a.inRange value

/-- the signal that a raw value gives the clock -/
def signal (a : Animation Float) (raw : Float) : Bool :=
  if a.kind.isGate then passes a (a.apply (Float.ofNat 0) raw) else decide (Float.ofNat 0 < raw)

end Animation

namespace Track

/-- the raw value and the signal that an answer gives; without one, 0 and the signal of before -/
def input (t : Track) : Option Float → Float × Bool
  | some raw => (raw, t.animation.signal raw)
  | none => (Float.ofNat 0, t.clock.engaged)

/-- the track after it was asked, and its sample, riding on `stacking` -/
def sample (s : Sampling) (stacking : Float) (t : Track) : Track × Sample :=
  let (raw, signal) := t.input (s.resolve t.animation.source)
  let clock := match s.view with
    | .tick => t.clock.advance t.animation.toTiming signal
    | .frame => t.clock
  ({ t with clock },
    { value := t.animation.apply stacking (clock.effective t.curve t.animation.toTiming raw), moved := clock.moved })

end Track

end Stagecraft
