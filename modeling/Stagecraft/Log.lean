/-
What the library reports of its own doing, in the order in which it happens.
-/
import Stagecraft.Id
import Stagecraft.Presentation.Sanitized

namespace Stagecraft

/-- how much a report matters -/
inductive Severity where
  | warn
  | debug
deriving DecidableEq, Repr

inductive Event where
  /-- a name without a value, reported once -/
  | unanswered (name : String)
  | rejected (r : Rejection)
  /-- the presenter of an entity took a definition with so many clocks -/
  | activated (entity : EntityId) (clocks : Nat)
  | reloaded (entity : EntityId) (clocks : Nat)
  | released (entity : EntityId)
  /-- the registry took or dropped an entity -/
  | registered (world : WorldId) (entity : EntityId)
  | unregistered (world : WorldId) (entity : EntityId)
deriving DecidableEq, Repr

namespace Event

/-- warnings are for pack authors, the rest is for debugging -/
def severity : Event → Severity
  | .unanswered _ | .rejected _ => .warn
  | _ => .debug

def message : Event → String
  | .unanswered name => s!"animation variable not found: '{name}' - using 0.0"
  | .rejected ⟨owner, role, fault⟩ =>
    let (role, fault) := (role.name, fault.message)
    s!"rejecting {role} animations of {owner}: {fault} - channel falls back to no animations"
  | .activated entity clocks => s!"activated presentation for entity {entity.label} ({clocks} clocks)"
  | .reloaded entity clocks => s!"reloaded presentation for entity {entity.label} ({clocks} clocks)"
  | .released entity => s!"released presentation for entity {entity.label}"
  | .registered world entity => s!"world {world.label}: entity {entity.label} activated"
  | .unregistered world entity => s!"world {world.label}: entity {entity.label} removed"

end Event

def Presentation.rejectionEvents (p : Presentation) : List Event := p.rejections.map Event.rejected

/-- a state after a step, what the step gives, and what it reports -/
structure Turn (σ ρ : Type) where
  state : σ
  output : ρ
  events : List Event := []

end Stagecraft
