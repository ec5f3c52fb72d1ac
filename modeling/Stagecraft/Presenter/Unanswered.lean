/-
Names without a value, each reported the first time it is met. Reporting may be turned off; the names are remembered
all the same.
-/
import Stagecraft.Log

namespace Stagecraft

/-- the names met so far, in order, and whether new ones are reported -/
structure Unanswered where
  enabled : Bool := true
  seen : List String := []
deriving DecidableEq, Repr

namespace Unanswered

/-- meet one name; true the first time -/
def note (u : Unanswered) (name : String) : Turn Unanswered Bool :=
  if u.seen.contains name then ⟨u, false, []⟩
  else ⟨{ u with seen := u.seen ++ [name] }, true, if u.enabled then [.unanswered name] else []⟩

/-- meet names in order -/
def noteAll (u : Unanswered) : List String → Turn Unanswered Unit
  | [] => ⟨u, (), []⟩
  | name :: names =>
    let first := u.note name
    let rest := first.state.noteAll names
    ⟨rest.state, (), first.events ++ rest.events⟩

end Unanswered

end Stagecraft
