/-
The channels of a presentation as one list: lights first, then the active, the volume and the pitch channel of every sound, then
emitters and moving objects, each with a description of its owner. `Presentation.bare` is the other side: all that is in a
presentation beside its animations.
-/
import Stagecraft.Presentation.Sanitized

namespace Stagecraft

/-- a channel, whose it is, and which one of its owner -/
structure ListedChannel where
  owner : String
  role : ChannelRole
  animations : List (Animation Float)
deriving DecidableEq, Repr

namespace ListedChannel

/-- a channel with an animation that no pack may hold -/
def isFaulty (c : ListedChannel) : Bool := c.animations.any fun a => !a.isValid

/-- the channel without its animations -/
def emptied (c : ListedChannel) : ListedChannel := { c with animations := [] }

end ListedChannel

/-- the channels that one part of a presentation has -/
def Light.channels (l : Light) : List ListedChannel :=
  [⟨"light '" ++ l.objectName ++ "'", .brightness, l.brightness⟩]

def Sound.channels (s : Sound) : List ListedChannel :=
  let owner := "sound '" ++ s.name ++ "'"
  [⟨owner, .active, s.active⟩, ⟨owner, .volume, s.volume⟩, ⟨owner, .pitch, s.pitch⟩]

/-- emitters are told apart by their places, since they share the names of their particles -/
def Emitter.channels (e : Emitter) (index : Nat) : List ListedChannel :=
  [⟨"particle #" ++ toString index ++ " '" ++ e.particle ++ "'", .spawn, e.active⟩]

def MovingObject.channels (o : MovingObject) : List ListedChannel := [⟨"object '" ++ o.name ++ "'", .motion, o.motion⟩]

namespace Presentation

def channels (p : Presentation) : List ListedChannel :=
  p.lights.flatMap Light.channels ++ p.sounds.flatMap Sound.channels ++
    p.emitters.zipIdx.flatMap (fun (e, index) => e.channels index) ++ p.objects.flatMap MovingObject.channels

/-- every animation of a presentation -/
def animations (p : Presentation) : List (Animation Float) := p.channels.flatMap (·.animations)

theorem animations_eq (p : Presentation) :
    p.animations = p.lights.flatMap (·.brightness) ++ p.sounds.flatMap (fun s => s.active ++ s.volume ++ s.pitch) ++
      p.emitters.flatMap (·.active) ++ p.objects.flatMap (·.motion) := by
  have hemitters : p.emitters.zipIdx.flatMap (fun e => e.1.active) = p.emitters.flatMap (·.active) := by
    rw [← List.flatMap_map Prod.fst, List.zipIdx_map_fst]
  simp [animations, channels, List.flatMap_assoc, Light.channels, Sound.channels, Emitter.channels, MovingObject.channels,
    hemitters]

/-- the presentation with no animations at all: names, switches, quantities, constants, and how many parts there are -/
def bare (p : Presentation) : Presentation :=
  { p with
    lights := p.lights.map fun l => { l with brightness := [] }
    sounds := p.sounds.map fun s => { s with active := [], volume := [], pitch := [] }
    emitters := p.emitters.map fun e => { e with active := [] }
    objects := p.objects.map fun o => { o with motion := [] } }

end Presentation

end Stagecraft
