/-
Scripted runs: which presentation to load, and the variables of every tick. The timeline starts with tick 1, wraps
around, and tick 0 reads like tick 1.
-/
import Stagecraft.Json.Reader
import Stagecraft.Json.Record
import Stagecraft.Variable.Scope

namespace Stagecraft

/-- a table from an object of numbers; the last value of a name counts -/
def Table.ofJson? : Json → Option Table
  | .object members =>
    let entry (m : String × Json) : Option (String × Float) := m.2.float?.map (m.1, ·)
    (members.mapM entry).map Table.ofList
  | _ => none

/-- a scripted run -/
structure Scenario where
  /-- the name of the presentation to load -/
  presentation : String
  /-- for how many ticks the timeline is repeated -/
  ticks : Nat
  timeline : List Table

namespace Scenario

def fieldNames : List String := ["presentation", "ticks", "timeline"]

def ofJson? (v : Json) : Option Scenario := do
  match ← v.fields? fieldNames with
  | [presentation, ticks, timeline] =>
    return {
      presentation := ← Json.required Json.string? presentation
      ticks := ← Json.required Json.word? ticks
      timeline := ← Json.required (Json.list? Table.ofJson?) timeline }
  | _ => none

def ofText? (text : String) : Option Scenario := (Json.ofText? text).bind ofJson?

/-- the variables of a tick, none if the timeline is empty -/
def frame? (s : Scenario) (tick : Nat) : Option Table := s.timeline[(tick - 1) % s.timeline.length]?

end Scenario

end Stagecraft
