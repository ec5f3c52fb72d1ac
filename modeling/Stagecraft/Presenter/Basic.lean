/-
The presenter of one entity: between activation and teardown it holds the stage of the entity, the sounds that play, and
the brightness of its lights as last computed.

`activate` sets up a stage once; `reload` replaces it as a whole; `teardown` takes it away. The last two stop every
sound. The names that were met without a value outlive all three.
-/
import Stagecraft.Presenter.Voice
import Stagecraft.Presenter.Stage
import Stagecraft.Settings
import Stagecraft.Presenter.Unanswered

namespace Stagecraft

structure Presenter where
  entity : EntityId
  settings : Settings
  stage : Option Stage := none
  playing : List Voice := []
  /-- one brightness for every light, or none before the first tick or frame -/
  brightness : List Float32 := []
  unanswered : Unanswered := {}
deriving DecidableEq

namespace Presenter

/-- a presenter without a stage -/
def new (entity : EntityId) (settings : Settings) : Presenter :=
  { entity, settings, unanswered := { enabled := settings.logUnknown } }

def isActive (p : Presenter) : Bool := p.stage.isSome

/-- the number of clocks, 0 without a stage -/
def clockCount (p : Presenter) : Nat := (p.stage.map Stage.clockCount).getD 0

/-- the presentation on stage -/
def presentation? (p : Presenter) : Option Presentation := p.stage.map (·.presentation)

/-- the brightness of a light as last computed; of lights that share an id, the last one counts -/
def brightnessOf? (p : Presenter) (light : LightId) : Option Float32 :=
  (p.brightness.zipIdx.reverse.find? fun (_, index) => LightId.ofIndex index = light).map (·.1)

/-- set up a stage; false and nothing done if there is one -/
def activate (presentation : Presentation) (tick : Nat) (p : Presenter) : Turn Presenter Bool :=
  match p.stage with
  | some _ => ⟨p, false, []⟩
  | none =>
    let stage := Stage.build p.settings.curve presentation tick
    ⟨{ p with stage := some stage }, true, [.activated p.entity stage.clockCount]⟩

/-- stop everything and set up another stage -/
def reload (presentation : Presentation) (tick : Nat) (p : Presenter) : Turn Presenter TickOutput :=
  let stage := Stage.build p.settings.curve presentation tick
  ⟨{ p with stage := some stage, playing := [], brightness := [] }, { audio := Voices.stopAll p.entity p.playing },
    [.reloaded p.entity stage.clockCount]⟩

/-- stop everything and take the stage away -/
def teardown (p : Presenter) : Turn Presenter TickOutput :=
  ⟨{ p with stage := none, playing := [], brightness := [] }, { audio := Voices.stopAll p.entity p.playing },
    if p.isActive then [.released p.entity] else []⟩

/-- the audio host has finished a voice of a sound; false if none was playing -/
def soundFinished (sound : SoundId) (p : Presenter) : Presenter × Bool :=
  ({ p with playing := Voices.dropOldest p.playing sound }, Voices.has p.playing sound)

end Presenter

end Stagecraft
