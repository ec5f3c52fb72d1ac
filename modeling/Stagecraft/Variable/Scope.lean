/-
Where variables come from. A `Scope` answers a name with a value, or not at all; the partial tick is the progress into
the next tick, zero during tick passes.
-/
namespace Stagecraft

/-- the answers to variable names at a partial tick -/
abbrev Scope := Float32 → String → Option Float

/-- a fixed table of values, the latest entry of a name first -/
structure Table where
  entries : List (String × Float) := []
deriving DecidableEq, Repr

namespace Table

def get? (t : Table) (name : String) : Option Float := t.entries.lookup name

/-- the table without a name, and the value that it had -/
def remove (t : Table) (name : String) : Table × Option Float :=
  (⟨t.entries.filter (·.1 ≠ name)⟩, t.get? name)

/-- the table with a new value for a name -/
def set (t : Table) (name : String) (value : Float) : Table := ⟨(name, value) :: (t.remove name).1.entries⟩

/-- the table of a list of entries; the last value of a name counts -/
def ofList (entries : List (String × Float)) : Table := entries.foldl (fun t (name, value) => t.set name value) {}

/-- a table as a scope, the same at every partial tick -/
def scope (t : Table) : Scope := fun _ name => t.get? name

end Table

end Stagecraft
