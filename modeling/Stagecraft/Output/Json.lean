/-
Outputs from JSON. A cue is an object with one key that says which cue it is; a whole output may leave out its
empty lists.
-/
import Stagecraft.Animation.Json
import Stagecraft.Output

namespace Stagecraft

def EntityId.ofJson? (v : Json) : Option EntityId := v.uint32?.map EntityId.mk

namespace Cue

def startOfJson? (v : Json) : Option Cue := do
  match ← v.fields? ["entity", "sound", "name", "looping"] with
  | [entity, sound, name, looping] =>
    return .start (← Json.required EntityId.ofJson? entity) ⟨← Json.required Json.uint32? sound⟩
      (← Json.required Json.string? name) (← Json.required Json.bool? looping)
  | _ => none

def stopOfJson? (v : Json) : Option Cue := do
  match ← v.fields? ["entity", "sound", "name"] with
  | [entity, sound, name] =>
    return .stop (← Json.required EntityId.ofJson? entity) ⟨← Json.required Json.uint32? sound⟩
      (← Json.required Json.string? name)
  | _ => none

def updateOfJson? (v : Json) : Option Cue := do
  match ← v.fields? ["entity", "sound", "volume", "pitch"] with
  | [entity, sound, volume, pitch] =>
    return .update (← Json.required EntityId.ofJson? entity) ⟨← Json.required Json.uint32? sound⟩
      (← Json.required Json.single? volume) (← Json.required Json.single? pitch)
  | _ => none

def ofJson? : Json → Option Cue
  | .object [("Start", v)] => startOfJson? v
  | .object [("Stop", v)] => stopOfJson? v
  | .object [("Update", v)] => updateOfJson? v
  | _ => none

end Cue

def Spawn.ofJson? (v : Json) : Option Spawn := do
  match ← v.fields? ["entity", "particle", "count"] with
  | [entity, particle, count] =>
    return ⟨← Json.required EntityId.ofJson? entity, ⟨← Json.required Json.uint32? particle⟩,
      ← Json.required Json.uint32? count⟩
  | _ => none

def LightOutput.ofJson? (v : Json) : Option LightOutput := do
  match ← v.fields? ["entity", "light", "brightness"] with
  | [entity, light, brightness] =>
    return ⟨← Json.required EntityId.ofJson? entity, ⟨← Json.required Json.uint32? light⟩,
      ← Json.required Json.single? brightness⟩
  | _ => none

def PoseStep.ofJson? (v : Json) : Option PoseStep := do
  match ← v.fields? ["animation", "kind", "axis", "value", "stacked"] with
  | [animation, kind, axis, value, stacked] =>
    return ⟨← Json.required Json.word? animation, ← Json.required Kind.ofJson? kind,
      ← Json.required Axis.ofJson? axis, ← Json.required Json.float? value, ← Json.required Json.bool? stacked⟩
  | _ => none

def ObjectOutput.ofJson? (v : Json) : Option ObjectOutput := do
  match ← v.fields? ["entity", "object", "visible", "steps"] with
  | [entity, object, visible, steps] =>
    return ⟨← Json.required EntityId.ofJson? entity, ⟨← Json.required Json.uint32? object⟩,
      ⟨← Json.required Json.bool? visible, ← Json.required (Json.list? PoseStep.ofJson?) steps⟩⟩
  | _ => none

def TickOutput.ofJson? (v : Json) : Option TickOutput := do
  match ← v.fields? ["audio", "particles"] with
  | [audio, spawns] =>
    return ⟨← Json.optional (Json.list? Cue.ofJson?) [] audio,
      ← Json.optional (Json.list? Spawn.ofJson?) [] spawns⟩
  | _ => none

def FrameOutput.ofJson? (v : Json) : Option FrameOutput := do
  match ← v.fields? ["lights", "poses"] with
  | [lights, poses] =>
    return ⟨← Json.optional (Json.list? LightOutput.ofJson?) [] lights,
      ← Json.optional (Json.list? ObjectOutput.ofJson?) [] poses⟩
  | _ => none

end Stagecraft
