/-
Loading a presentation that may hold faulty animations. A channel with a faulty animation falls back to no animations,
and is reported with the first fault in it; nothing else changes, so one bad entry never stops an entity from loading.

Reports come in the order lights, sounds (active, volume, pitch), emitters, moving objects.
-/
import Stagecraft.Animation.Validation
import Stagecraft.Presentation.Basic

namespace Stagecraft

/-- which channel of its owner a rejected one is -/
inductive ChannelRole where
  | active
  | volume
  | pitch
  | brightness
  | spawn
  | motion
deriving DecidableEq, Repr

def ChannelRole.name : ChannelRole → String
  | .active => "active"
  | .volume => "volume"
  | .pitch => "pitch"
  | .brightness => "brightness"
  | .spawn => "spawn"
  | .motion => "motion"

/-- a channel that was emptied, and why -/
structure Rejection where
  owner : String
  role : ChannelRole
  fault : AnimationFault Float
deriving DecidableEq, Repr

/-- the first fault in a channel -/
def firstFault? (as : List (Animation Float)) : Option (AnimationFault Float) := as.findSome? Animation.fault?

/-- a channel without a fault, else no animations -/
def keepValid (as : List (Animation Float)) : List (Animation Float) := if (firstFault? as).isSome then [] else as

/-- the report on a channel, none for one without a fault -/
def rejection? (owner : String) (role : ChannelRole) (as : List (Animation Float)) : Option Rejection :=
  (firstFault? as).map (⟨owner, role, ·⟩)

namespace Light

def sanitized (l : Light) : Light := { l with brightness := keepValid l.brightness }

def rejections (l : Light) : List Rejection :=
  (rejection? ("light '" ++ l.objectName ++ "'") .brightness l.brightness).toList

end Light

namespace Sound

def sanitized (s : Sound) : Sound :=
  { s with active := keepValid s.active, volume := keepValid s.volume, pitch := keepValid s.pitch }

def rejections (s : Sound) : List Rejection :=
  let owner := "sound '" ++ s.name ++ "'"
  (rejection? owner .active s.active).toList ++ (rejection? owner .volume s.volume).toList ++
    (rejection? owner .pitch s.pitch).toList

end Sound

namespace Emitter

def sanitized (e : Emitter) : Emitter := { e with active := keepValid e.active }

/-- the reports on the emitter at a place -/
def rejections (e : Emitter) (index : Nat) : List Rejection :=
  (rejection? ("particle #" ++ toString index ++ " '" ++ e.particle ++ "'") .spawn e.active).toList

end Emitter

namespace MovingObject

def sanitized (o : MovingObject) : MovingObject := { o with motion := keepValid o.motion }

def rejections (o : MovingObject) : List Rejection :=
  (rejection? ("object '" ++ o.name ++ "'") .motion o.motion).toList

end MovingObject

namespace Presentation

/-- the presentation with every faulty channel emptied -/
def sanitized (p : Presentation) : Presentation :=
  { p with
    lights := p.lights.map Light.sanitized
    sounds := p.sounds.map Sound.sanitized
    emitters := p.emitters.map Emitter.sanitized
    objects := p.objects.map MovingObject.sanitized }

/-- the reports on a presentation, in order -/
def rejections (p : Presentation) : List Rejection :=
  p.lights.flatMap Light.rejections ++ p.sounds.flatMap Sound.rejections ++
    p.emitters.zipIdx.flatMap (fun (e, index) => e.rejections index) ++ p.objects.flatMap MovingObject.rejections

end Presentation

end Stagecraft
