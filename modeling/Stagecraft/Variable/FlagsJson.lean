/-
Flags from JSON: four lists of names, of which the one-shot flags and the constants may be left out. Names may repeat.
-/
import Stagecraft.Json.Record
import Stagecraft.Variable.Flags

namespace Stagecraft.Flags

def fieldNames : List String := ["on", "declared", "one_shot", "constants"]

/-- a list of names as a set -/
def names? (v : Json) : Option (List String) :=
  (v.list? Json.string?).map fun ns => ns.foldl (fun set n => set.insert n) []

def ofJson? (v : Json) : Option Flags := do
  match ← v.fields? fieldNames with
  | [on, declared, oneShot, constants] =>
    return {
      on := ← Json.required names? on
      declared := ← Json.required names? declared
      oneShot := ← Json.optional names? [] oneShot
      constants := ← Json.optional names? [] constants }
  | _ => none

end Stagecraft.Flags
