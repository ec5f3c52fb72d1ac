/-
What a host is to do: after a tick, cues for the audio host and particles to spawn; after a frame, brightnesses of
lights and poses of objects.
-/
import Stagecraft.Channel.Evaluation
import Stagecraft.Id

namespace Stagecraft

/-- a cue for the audio host -/
inductive Cue where
  | start (entity : EntityId) (sound : SoundId) (name : String) (looping : Bool)
  | stop (entity : EntityId) (sound : SoundId) (name : String)
  | update (entity : EntityId) (sound : SoundId) (volume pitch : Float32)
deriving DecidableEq

/-- particles to spawn -/
structure Spawn where
  entity : EntityId
  particle : ParticleId
  count : UInt32
deriving DecidableEq, Repr

/-- the brightness of a light, in [0, 1] -/
structure LightOutput where
  entity : EntityId
  light : LightId
  brightness : Float32
deriving DecidableEq

structure ObjectOutput where
  entity : EntityId
  object : ObjectId
  pose : Pose
deriving DecidableEq

structure TickOutput where
  audio : List Cue := []
  spawns : List Spawn := []
deriving DecidableEq

structure FrameOutput where
  lights : List LightOutput := []
  poses : List ObjectOutput := []
deriving DecidableEq

namespace TickOutput

def isEmpty (o : TickOutput) : Bool := o.audio.isEmpty && o.spawns.isEmpty

def append (a b : TickOutput) : TickOutput := ⟨a.audio ++ b.audio, a.spawns ++ b.spawns⟩

instance : Append TickOutput := ⟨append⟩

end TickOutput

namespace FrameOutput

def isEmpty (o : FrameOutput) : Bool := o.lights.isEmpty && o.poses.isEmpty

def append (a b : FrameOutput) : FrameOutput := ⟨a.lights ++ b.lights, a.poses ++ b.poses⟩

instance : Append FrameOutput := ⟨append⟩

end FrameOutput

end Stagecraft
