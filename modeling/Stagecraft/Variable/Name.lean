/-
Names of variables: what a loaded name must satisfy, and the index that a numbered name carries.
-/
import Stagecraft.Variable.Cycle

namespace Stagecraft

/-- why a name is no variable -/
inductive NameFault where
  | empty
  | cycle (fault : CycleFault)
deriving DecidableEq, Repr

def NameFault.message : NameFault → String
  | .empty => "variable name is empty"
  | .cycle fault => fault.message

namespace VariableName

/-- the fault of a name; a good one is not empty, and spells a cycle if it has the suffix of one -/
def fault? (name : String) : Option NameFault :=
  if name.isEmpty then some .empty
  else if Cycle.isName name then
    match Cycle.parse name with
    | .error e => some (.cycle e)
    | .ok _ => none
  else none

/-- what follows the last underscore, none without one -/
def lastPart? (cs : List Char) : Option (List Char) :=
  match Cycle.segments cs with
  | [] | [_] => none
  | parts => parts.getLast?

/-- the zero-based index of a name that ends in `_` and a number counted from one; `_0` has none -/
def index? (name : String) : Option Nat := do
  let n ← Digits.word? (← lastPart? name.toList)
  if n = 0 then none else some (n - 1)

end VariableName

end Stagecraft
