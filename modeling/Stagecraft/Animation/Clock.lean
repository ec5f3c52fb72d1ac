/-
The clock of an animation: what its smoothing remembers from tick to tick.

One signal per tick drives it. While the signal is on, the ramp grows to the span of the timing and stays there; when
the signal goes, the level first holds for the delay and then falls, one tick of ramp per tick. A ramp that had not
reached the top keeps growing while it holds. The level is the ramp over the span, bent by the curve.
-/
import Stagecraft.Animation.Basic

namespace Stagecraft

/-- how a level follows its ramp -/
inductive Curve where
  | linear
  /-- ease in and out, `3t² - 2t³` -/
  | smoothStep
deriving DecidableEq, Repr

namespace Curve

variable {α : Type} [Scalar α]

/-- a number held between 0 and 1 -/
def clampUnit (t : α) : α :=
  if t < Scalar.ofNat 0 then Scalar.ofNat 0 else if Scalar.ofNat 1 < t then Scalar.ofNat 1 else t

/-- the curve at a progress, first held between 0 and 1 -/
def apply (c : Curve) (t : α) : α :=
  let t := clampUnit t
  match c with
  | .linear => t
  | .smoothStep => t * t * (Scalar.ofNat 3 - Scalar.ofNat 2 * t)

end Curve

/-- where a clock stands between nothing and full -/
inductive Phase where
  | idle
  | rampingUp
  | held
  | rampingDown
deriving DecidableEq, Repr

/-- the state of a clock; a new one is idle -/
structure Clock where
  phase : Phase := .idle
  /-- ticks of ramp, from 0 to the span -/
  ramp : Nat := 0
  /-- ticks without signal that the level still stands -/
  hold : Nat := 0
  engaged : Bool := false
  /-- whether the last tick turned the signal over -/
  moved : Bool := false
deriving DecidableEq, Repr

namespace Clock

/-- one tick up, held at the top -/
def rampUp (t : Timing) (c : Clock) : Clock :=
  let ramp := min (c.ramp + 1) t.span
  { c with ramp, phase := if t.span ≤ ramp then .held else .rampingUp }

/-- one tick down, idle at the bottom -/
def rampDown (c : Clock) : Clock :=
  let ramp := c.ramp - 1
  { c with ramp, phase := if ramp = 0 then .idle else .rampingDown }

/-- one tick with the signal on -/
def engage (t : Timing) (c : Clock) : Clock :=
  let c := { c with hold := t.delayTicks }
  if c.phase = .held then c else c.rampUp t

/-- one tick with the signal off -/
def release (t : Timing) (c : Clock) : Clock :=
  match c.phase with
  | .idle => c
  | .rampingDown => c.rampDown
  | .rampingUp => if 0 < c.hold then { c with hold := c.hold - 1 }.rampUp t else c.rampDown
  | .held => if 0 < c.hold then { c with hold := c.hold - 1 } else c.rampDown

def advance (t : Timing) (signal : Bool) (c : Clock) : Clock :=
  let c := { c with moved := signal != c.engaged, engaged := signal }
  if signal then c.engage t else c.release t

def fresh : Clock := {}

/-- back to a new clock, whatever the clock remembers -/
def reset (_ : Clock) : Clock := fresh

variable {α : Type} [Scalar α]

def level (curve : Curve) (t : Timing) (c : Clock) : α :=
  curve.apply (Scalar.ofNat c.ramp / Scalar.ofNat t.span)

/-- the level if the timing smooths, else the raw value -/
def effective (curve : Curve) (t : Timing) (c : Clock) (raw : α) : α :=
  if t.smooths then c.level curve t else raw

end Clock

end Stagecraft
