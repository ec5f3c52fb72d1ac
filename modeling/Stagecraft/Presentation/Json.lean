/-
Presentations in a pack. `Presentation.ofJson?` reads what `Presentation.toJson` writes, if the numbers are finite. Names
must be there; lists, switches and quantities have defaults, so the empty object is the empty presentation.
-/
import Stagecraft.Animation.Json
import Stagecraft.Presentation.Basic

namespace Stagecraft

/-- the animations of a channel; none are written as an empty list or left out -/
def animations? : Option Json → Option (List (Animation Float)) := Json.optional (Json.list? Animation.ofJson?) []

def animationsJson (as : List (Animation Float)) : Json := .array (as.map Animation.toJson)

namespace Light

def fieldNames : List String := ["objectName", "brightnessAnimations"]

def ofJson? (v : Json) : Option Light := do
  match ← v.fields? fieldNames with
  | [objectName, brightness] =>
    return { objectName := ← Json.required Json.string? objectName, brightness := ← animations? brightness }
  | _ => none

def toJson (l : Light) : Json :=
  .object [("objectName", .string l.objectName), ("brightnessAnimations", animationsJson l.brightness)]

end Light

namespace Sound

def fieldNames : List String :=
  ["name", "looping", "forceSound", "isInterior", "isExterior", "activeAnimations", "volumeAnimations",
   "pitchAnimations"]

def ofJson? (v : Json) : Option Sound := do
  match ← v.fields? fieldNames with
  | [name, looping, forced, interior, exterior, active, volume, pitch] =>
    return {
      name := ← Json.required Json.string? name
      looping := ← Json.optional Json.bool? false looping
      forced := ← Json.optional Json.bool? false forced
      interior := ← Json.optional Json.bool? false interior
      exterior := ← Json.optional Json.bool? false exterior
      active := ← animations? active
      volume := ← animations? volume
      pitch := ← animations? pitch }
  | _ => none

def toJson (s : Sound) : Json :=
  .object
    [("name", .string s.name), ("looping", .bool s.looping), ("forceSound", .bool s.forced),
     ("isInterior", .bool s.interior), ("isExterior", .bool s.exterior), ("activeAnimations", animationsJson s.active),
     ("volumeAnimations", animationsJson s.volume), ("pitchAnimations", animationsJson s.pitch)]

end Sound

namespace Emitter

def fieldNames : List String := ["type", "quantity", "spawnEveryTick", "activeAnimations"]

def ofJson? (v : Json) : Option Emitter := do
  match ← v.fields? fieldNames with
  | [particle, quantity, everyTick, active] =>
    return {
      particle := ← Json.required Json.string? particle
      quantity := ← Json.optional Json.uint32? 0 quantity
      everyTick := ← Json.optional Json.bool? false everyTick
      active := ← animations? active }
  | _ => none

def toJson (e : Emitter) : Json :=
  .object
    [("type", .string e.particle), ("quantity", .whole e.quantity.toNat), ("spawnEveryTick", .bool e.everyTick),
     ("activeAnimations", animationsJson e.active)]

end Emitter

namespace MovingObject

def fieldNames : List String := ["objectName", "animations"]

def ofJson? (v : Json) : Option MovingObject := do
  match ← v.fields? fieldNames with
  | [name, motion] => return { name := ← Json.required Json.string? name, motion := ← animations? motion }
  | _ => none

def toJson (o : MovingObject) : Json :=
  .object [("objectName", .string o.name), ("animations", animationsJson o.motion)]

end MovingObject

namespace Presentation

def fieldNames : List String := ["lightObjects", "sounds", "particles", "animatedObjects", "constants"]

def ofJson? (v : Json) : Option Presentation := do
  match ← v.fields? fieldNames with
  | [lights, sounds, emitters, objects, constants] =>
    return {
      lights := ← Json.optional (Json.list? Light.ofJson?) [] lights
      sounds := ← Json.optional (Json.list? Sound.ofJson?) [] sounds
      emitters := ← Json.optional (Json.list? Emitter.ofJson?) [] emitters
      objects := ← Json.optional (Json.list? MovingObject.ofJson?) [] objects
      constants := ← Json.optional (Json.list? Json.string?) [] constants }
  | _ => none

def toJson (p : Presentation) : Json :=
  .object
    [("lightObjects", .array (p.lights.map Light.toJson)), ("sounds", .array (p.sounds.map Sound.toJson)),
     ("particles", .array (p.emitters.map Emitter.toJson)),
     ("animatedObjects", .array (p.objects.map MovingObject.toJson)),
     ("constants", .array (p.constants.map Json.string))]

end Presentation

end Stagecraft
