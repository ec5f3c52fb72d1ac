/-
Variables that the world drives: the twelve built-in names, and cycle names over the world tick.

The tick family follows the partial tick. Rain counts in whole units: its strength is cut off to a whole number, and
the two rain waves are 0 when it is not positive, else a wave in [0, 1] whose frequency grows with it.
-/
import Stagecraft.Number.Single
import Stagecraft.Variable.Cycle
import Stagecraft.Variable.Scope

namespace Stagecraft

structure World where
  tick : Nat := 0
  time : Float := Float.ofNat 0
  rain : Float := Float.ofNat 0
  /-- light from the sky alone -/
  skyLight : Float := Float.ofNat 0
  /-- light from the sky and from blocks -/
  totalLight : Float := Float.ofNat 0
  /-- the distance down to the ground -/
  ground : Float := Float.ofNat 0
  /-- signal power, at most 255 -/
  power : UInt8 := 0

namespace World

/-- the world tick with the partial tick added -/
def smoothTick (w : World) (partialTick : Float32) : Float := Float.ofNat w.tick + Single.widen partialTick

def radians (x : Float) : Float := x * (3.141592653589793 / 180.0)

/-- a number without its fraction -/
def truncate (x : Float) : Float := if x < 0.0 then x.ceil else x.floor

/-- a wave in [0, 1] over the tick, 0 when dry -/
def rainWave (wave : Float → Float) (w : World) (tick : Float) : Float :=
  let strength := truncate w.rain
  if 0.0 < strength then wave (strength * radians (360.0 * tick / 20.0)) / 2.0 + 0.5 else 0.0

/-- the built-in names with their values at a smooth tick -/
def builtins : List (String × (World → Float → Float)) :=
  [("tick", fun _ tick => tick),
   ("tick_sin", fun _ tick => (radians tick).sin),
   ("tick_cos", fun _ tick => (radians tick).cos),
   ("time", fun w _ => w.time),
   ("rain_strength", fun w _ => truncate w.rain),
   ("rain_sin", rainWave Float.sin),
   ("rain_cos", rainWave Float.cos),
   ("light_sunlight", fun w _ => w.skyLight),
   ("light_total", fun w _ => w.totalLight),
   ("ground_distance", fun w _ => w.ground),
   ("redstone_active", fun w _ => if 0 < w.power then Float.ofNat 1 else Float.ofNat 0),
   ("redstone_level", fun w _ => Float.ofNat w.power.toNat)]

def builtinNames : List String := builtins.map (·.1)

/-- a cycle name at the world tick; a malformed one is unknown -/
def cycle? (w : World) (name : String) : Option Float :=
  if Cycle.isName name then (Cycle.parse name).toOption.map (·.valueAt w.tick) else none

/-- the world as a scope -/
def scope (w : World) : Scope := fun partialTick name =>
  match builtins.lookup name with
  | some value => some (value w (w.smoothTick partialTick))
  | none => w.cycle? name

end World

end Stagecraft
