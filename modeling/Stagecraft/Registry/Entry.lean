/-
An active entity: its presenter and its flags in one world. What else a tick or a frame needs comes from the host, whose
answers may differ from entity to entity and from call to call.
-/
import Stagecraft.Presenter.Tick
import Stagecraft.Variable.Layers

namespace Stagecraft

/-- the host's answers during one call -/
structure Host where
  /-- the world around an entity -/
  world : EntityId → World
  /-- the variables of the entity itself, if it has any -/
  own : EntityId → Option Scope := fun _ => none
  observer : EntityId → Observer

/-- the variables of an entity, with its flags -/
def Host.scope (h : Host) (entity : EntityId) (flags : Flags) : Scope :=
  Scope.layered (h.own entity) (h.world entity) flags

structure Entry where
  world : WorldId
  presenter : Presenter
  flags : Flags

namespace Entry

def entity (e : Entry) : EntityId := e.presenter.entity

/-- whether an entry is that of an entity in a world -/
def isFor (world : WorldId) (entity : EntityId) (e : Entry) : Bool := e.world = world && e.entity = entity

/-- one tick of an entry; its one-shot flags end with it -/
def tick (tick : Nat) (host : Host) (e : Entry) : Turn Entry TickOutput :=
  let t := e.presenter.tick tick (host.scope e.entity e.flags) (host.observer e.entity)
  ⟨{ e with presenter := t.state, flags := e.flags.clearOneShots }, t.output, t.events⟩

def frame (partialTick : Float32) (host : Host) (e : Entry) : Turn Entry FrameOutput :=
  let t := e.presenter.frame partialTick (host.scope e.entity e.flags)
  ⟨{ e with presenter := t.state }, t.output, t.events⟩

end Entry

end Stagecraft
