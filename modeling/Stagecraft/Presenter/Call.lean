/-
Calls of a host on one presenter, and runs of calls in any order.
-/
import Stagecraft.Presenter.Tick

namespace Stagecraft

/-- one call of the host -/
inductive Call where
  | activate (presentation : Presentation) (tick : Nat)
  | reload (presentation : Presentation) (tick : Nat)
  | teardown
  | tick (tick : Nat) (scope : Scope) (observer : Observer)
  | frame (partialTick : Float32) (scope : Scope)
  /-- the audio host has finished a voice -/
  | soundFinished (sound : SoundId)

inductive Answer where
  /-- of `activate` and `soundFinished` -/
  | flag (yes : Bool)
  /-- of `reload`, `teardown` and `tick` -/
  | effects (output : TickOutput)
  /-- of `frame` -/
  | picture (output : FrameOutput)
deriving DecidableEq

namespace Answer

def audio : Answer → List Cue
  | .effects output => output.audio
  | _ => []

def spawns : Answer → List Spawn
  | .effects output => output.spawns
  | _ => []

end Answer

namespace Presenter

def call (p : Presenter) : Call → Turn Presenter Answer
  | .activate presentation tick =>
    let t := p.activate presentation tick
    ⟨t.state, .flag t.output, t.events⟩
  | .reload presentation tick =>
    let t := p.reload presentation tick
    ⟨t.state, .effects t.output, t.events⟩
  | .teardown => ⟨p.teardown.state, .effects p.teardown.output, p.teardown.events⟩
  | .tick tick scope observer =>
    let t := p.tick tick scope observer
    ⟨t.state, .effects t.output, t.events⟩
  | .frame partialTick scope =>
    let t := p.frame partialTick scope
    ⟨t.state, .picture t.output, t.events⟩
  | .soundFinished sound => ⟨(p.soundFinished sound).1, .flag (p.soundFinished sound).2, []⟩

/-- calls in order, with their answers -/
def run (p : Presenter) : List Call → Turn Presenter (List Answer)
  | [] => ⟨p, [], []⟩
  | c :: calls =>
    let first := p.call c
    let rest := first.state.run calls
    ⟨rest.state, first.output :: rest.output, first.events ++ rest.events⟩

end Presenter

end Stagecraft
