/-
What is done to a clock, and any number of such acts in order.
-/
import Stagecraft.Animation.Clock

namespace Stagecraft.Clock

/-- one act on a clock -/
inductive Act where
  /-- one tick under a signal -/
  | advance (signal : Bool)
  | reset
deriving DecidableEq, Repr

def act (t : Timing) (c : Clock) : Act → Clock
  | .advance signal => c.advance t signal
  | .reset => c.reset

/-- acts in order -/
def perform (t : Timing) (c : Clock) (acts : List Act) : Clock := acts.foldl (act t) c

end Stagecraft.Clock
