/-
Animations in a pack. `Animation.ofJson?` reads what `Animation.toJson` writes, if the numbers are finite; an axis is
three numbers and is left out when there is none, and everything but the kind and the variable has a default.
-/
import Stagecraft.Animation.Basic
import Stagecraft.Json.Record

namespace Stagecraft

namespace Kind

def name : Kind → String
  | .visibility => "visibility"
  | .inhibitor => "inhibitor"
  | .activator => "activator"
  | .translation => "translation"
  | .rotation => "rotation"
  | .scaling => "scaling"

def all : List Kind := [.visibility, .inhibitor, .activator, .translation, .rotation, .scaling]

def ofName? (name : String) : Option Kind := all.find? (·.name = name)

def ofJson? (v : Json) : Option Kind := v.variant?.bind ofName?

end Kind

/-- an axis is its three coordinates -/
def Axis.ofJson? : Json → Option (Axis Float)
  | .array [x, y, z] => do return ⟨← x.float?, ← y.float?, ← z.float?⟩
  | _ => none

def Axis.toJson (a : Axis Float) : Json := .array [.number a.x, .number a.y, .number a.z]

namespace Animation

/-- the fields of an animation, in the order of its array form -/
def fieldNames : List String :=
  ["animationType", "variable", "axis", "offset", "clampMin", "clampMax", "absolute", "duration", "delay",
   "addPriorOffset"]

def ofJson? (v : Json) : Option (Animation Float) := do
  match ← v.fields? fieldNames with
  | [kind, source, axis, offset, clampMin, clampMax, absolute, duration, delay, rides] =>
    return {
      kind := ← Json.required Kind.ofJson? kind
      source := ← Json.required Json.string? source
      axis := ← Json.nullable Axis.ofJson? axis
      offset := ← Json.optional Json.float? (Float.ofNat 0) offset
      clampMin := ← Json.optional Json.float? (Float.ofNat 0) clampMin
      clampMax := ← Json.optional Json.float? (Float.ofNat 0) clampMax
      absolute := ← Json.optional Json.bool? false absolute
      duration := ← Json.optional Json.int32? 0 duration
      delay := ← Json.optional Json.int32? 0 delay
      rides := ← Json.optional Json.bool? false rides }
  | _ => none

def toJson (a : Animation Float) : Json :=
  .object <|
    [("animationType", .string a.kind.name), ("variable", .string a.source)] ++
    (match a.axis with
      | some axis => [("axis", axis.toJson)]
      | none => []) ++
    [("offset", .number a.offset), ("clampMin", .number a.clampMin), ("clampMax", .number a.clampMax),
     ("absolute", .bool a.absolute), ("duration", .whole a.duration.toInt), ("delay", .whole a.delay.toInt),
     ("addPriorOffset", .bool a.rides)]

end Animation

end Stagecraft
