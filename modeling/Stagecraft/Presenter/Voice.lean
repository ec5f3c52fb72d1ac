/-
The voices of an entity: one for every start of a sound that has not ended yet, oldest first. A forced sound may have
several; stopping or finishing a sound ends its oldest voice, and new levels reach every voice of it.
-/
import Stagecraft.Output

namespace Stagecraft

/-- one playing of a sound -/
structure Voice where
  sound : SoundId
  name : String
  looping : Bool
  volume : Float32 := 1
  pitch : Float32 := 1
deriving DecidableEq

namespace Voices

/-- whether a sound plays -/
def has (playing : List Voice) (sound : SoundId) : Bool := playing.any (·.sound = sound)

/-- the oldest voice of a sound -/
def oldest? (playing : List Voice) (sound : SoundId) : Option Voice := playing.find? (·.sound = sound)

/-- without the oldest voice of a sound -/
def dropOldest (playing : List Voice) (sound : SoundId) : List Voice := playing.eraseP (·.sound = sound)

/-- with new levels for every voice of a sound -/
def setLevels (playing : List Voice) (sound : SoundId) (volume pitch : Float32) : List Voice :=
  playing.map fun v => if v.sound = sound then { v with volume, pitch } else v

/-- the cues that stop everything -/
def stopAll (entity : EntityId) (playing : List Voice) : List Cue :=
  playing.map fun v => .stop entity v.sound v.name

end Voices

end Stagecraft
