/-
Settings of presenters. Every field has a default; the JSON form leaves out what keeps it.
-/
import Stagecraft.Animation.Clock
import Stagecraft.Json.Record

namespace Stagecraft

namespace Curve

def name : Curve → String
  | .linear => "linear"
  | .smoothStep => "smooth_step"

def ofName? (name : String) : Option Curve := [Curve.linear, .smoothStep].find? (·.name = name)

def ofJson? (v : Json) : Option Curve := v.variant?.bind ofName?

end Curve

/-- the tuning of presenters -/
structure Settings where
  /-- what volumes are multiplied by for an observer inside another, enclosed entity -/
  enclosedAttenuation : Float32 := 0.5
  /-- how levels follow their ramps -/
  curve : Curve := .linear
  /-- report unknown variables -/
  logUnknown : Bool := true
  /-- how many sounds a host should make room for -/
  soundCapacity : Nat := 8
deriving DecidableEq, Repr

namespace Settings

def fieldNames : List String := ["enclosed_attenuation", "ramp_curve", "log_unknown_variables", "sound_capacity"]

def ofJson? (v : Json) : Option Settings := do
  match ← v.fields? fieldNames with
  | [attenuation, curve, logUnknown, capacity] =>
    let default : Settings := {}
    return {
      enclosedAttenuation := ← Json.optional Json.single? default.enclosedAttenuation attenuation
      curve := ← Json.optional Curve.ofJson? default.curve curve
      logUnknown := ← Json.optional Json.bool? default.logUnknown logUnknown
      soundCapacity := ← Json.optional Json.word? default.soundCapacity capacity }
  | _ => none

end Settings

end Stagecraft
