/-
Requests of a host to the registry, and runs of requests in any order. A request that is refused changes nothing.
-/
import Stagecraft.Registry.Basic

namespace Stagecraft

/-- one request of the host -/
inductive Request where
  | activate (world : WorldId) (entity : EntityId) (presentation : Presentation) (tick : Nat)
  | reload (world : WorldId) (entity : EntityId) (presentation : Presentation) (tick : Nat)
  | remove (world : WorldId) (entity : EntityId)
  | removeAll (world : WorldId)
  /-- whatever the host does to the flags of an entity -/
  | updateFlags (world : WorldId) (entity : EntityId) (act : Flags → Flags)
  /-- the audio host has finished a voice -/
  | soundFinished (world : WorldId) (entity : EntityId) (sound : SoundId)
  | tick (world : WorldId) (tick : Nat) (host : Host)
  | frame (world : WorldId) (partialTick : Float32) (host : Host)

inductive Response where
  | refused (why : Refusal)
  /-- of `activate` and `updateFlags` -/
  | done
  /-- of `soundFinished` -/
  | flag (yes : Bool)
  /-- of `reload`, `remove` and `tick` -/
  | effects (output : TickOutput)
  /-- of `removeAll` -/
  | unloaded (count : Nat) (output : TickOutput)
  /-- of `frame` -/
  | picture (output : FrameOutput)
deriving DecidableEq

namespace Registry

/-- a registry without entities -/
def new (settings : Settings) : Registry := { settings }

/-- the turn of a call that may be refused -/
def settle {ρ : Type} (r : Registry) (respond : ρ → Response) :
    Except Refusal (Turn Registry ρ) → Turn Registry Response
  | .error why => ⟨r, .refused why, []⟩
  | .ok t => ⟨t.state, respond t.output, t.events⟩

def serve (r : Registry) : Request → Turn Registry Response
  | .activate world entity presentation tick =>
    r.settle (fun _ => .done) (r.activate world entity presentation tick)
  | .reload world entity presentation tick => r.settle .effects (r.reload world entity presentation tick)
  | .remove world entity => r.settle .effects (r.remove world entity)
  | .removeAll world =>
    let t := r.removeAll world
    ⟨t.state, .unloaded t.output.1 t.output.2, t.events⟩
  | .updateFlags world entity act =>
    r.settle (fun _ => .done) (r.updateFlags world entity fun flags => (act flags, ()))
  | .soundFinished world entity sound => r.settle .flag (r.soundFinished world entity sound)
  | .tick world tick host =>
    let t := r.tick world tick host
    ⟨t.state, .effects t.output, t.events⟩
  | .frame world partialTick host =>
    let t := r.frame world partialTick host
    ⟨t.state, .picture t.output, t.events⟩

/-- requests in order, with their responses -/
def run (r : Registry) : List Request → Turn Registry (List Response)
  | [] => ⟨r, [], []⟩
  | q :: requests =>
    let first := r.serve q
    let rest := first.state.run requests
    ⟨rest.state, first.output :: rest.output, first.events ++ rest.events⟩

end Registry

end Stagecraft
