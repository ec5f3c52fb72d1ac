/-
Where the local observer is, as one entity sees it, and which of its sounds are heard there.
-/
namespace Stagecraft

/-- the observer relative to an entity -/
structure Observer where
  ridingThis : Bool := false
  firstPerson : Bool := false
  customCameras : Bool := false
  /-- rides another entity with a closed top -/
  ridingEnclosedOther : Bool := false
deriving DecidableEq, Repr

namespace Observer

/-- in the entity's own first-person view -/
def isInside (o : Observer) : Bool := o.ridingThis && o.firstPerson && !o.customCameras

/-- hears the entity through the enclosure of another one -/
def isMuffled (o : Observer) : Bool := !o.ridingThis && o.ridingEnclosedOther && o.firstPerson && !o.customCameras

/-- interior sounds are heard inside only, exterior ones outside only -/
def hears (o : Observer) (interior exterior : Bool) : Bool := if o.isInside then !exterior else !interior

end Observer

end Stagecraft
