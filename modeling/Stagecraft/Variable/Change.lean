/-
Changes of flags, and runs of changes in any order.
-/
import Stagecraft.Variable.Flags

namespace Stagecraft.Flags

/-- one change of the flags of an entity -/
inductive Change where
  | declare (name : String)
  | set (name : String)
  | setOneShot (name : String)
  | clear (name : String)
  | toggle (name : String)
  | replaceConstants (names : List String)
  | clearOneShots
deriving DecidableEq, Repr

def change (f : Flags) : Change → Flags
  | .declare name => f.declare name
  | .set name => f.set name
  | .setOneShot name => f.setOneShot name
  | .clear name => f.clear name
  | .toggle name => f.toggle name
  | .replaceConstants names => f.replaceConstants names
  | .clearOneShots => f.clearOneShots

/-- changes in order -/
def run (f : Flags) (changes : List Change) : Flags := changes.foldl change f

end Stagecraft.Flags
