/-
The stage of an entity: its presentation set up with clocks, one channel for every list of animations.

A part of the stage holds its definition beside its channels, so the two cannot fall out of step. `Reading.all` goes
over parts in order and hands each its place; lights and moving objects are read alike in ticks and in frames.
-/
import Stagecraft.Output
import Stagecraft.Presentation.Basic

namespace Stagecraft

structure LiveLight where
  light : Light
  brightness : Channel
deriving DecidableEq, Repr

structure LiveSound where
  sound : Sound
  active : Channel
  volume : Channel
  pitch : Channel
deriving DecidableEq, Repr

structure LiveEmitter where
  emitter : Emitter
  active : Channel
  /-- the tick of the last spawn, at first of the activation -/
  lastSpawn : Nat
deriving DecidableEq, Repr

structure LiveObject where
  object : MovingObject
  motion : Channel
deriving DecidableEq, Repr

/-- every part of a presentation with its clocks -/
structure Stage where
  presentation : Presentation
  lights : List LiveLight
  sounds : List LiveSound
  emitters : List LiveEmitter
  objects : List LiveObject
deriving DecidableEq, Repr

namespace Stage

def liveLight (curve : Curve) (l : Light) : LiveLight := ⟨l, .ofAnimations curve l.brightness⟩

def liveSound (curve : Curve) (s : Sound) : LiveSound :=
  ⟨s, .ofAnimations curve s.active, .ofAnimations curve s.volume, .ofAnimations curve s.pitch⟩

def liveEmitter (curve : Curve) (tick : Nat) (e : Emitter) : LiveEmitter := ⟨e, .ofAnimations curve e.active, tick⟩

def liveObject (curve : Curve) (o : MovingObject) : LiveObject := ⟨o, .ofAnimations curve o.motion⟩

/-- a presentation set up at a tick -/
def build (curve : Curve) (p : Presentation) (tick : Nat) : Stage :=
  { presentation := p
    lights := p.lights.map (liveLight curve)
    sounds := p.sounds.map (liveSound curve)
    emitters := p.emitters.map (liveEmitter curve tick)
    objects := p.objects.map (liveObject curve) }

/-- the sizes of parts added up -/
def total {τ : Type} (size : τ → Nat) (parts : List τ) : Nat := parts.foldr (fun part n => size part + n) 0

def clockCount (s : Stage) : Nat :=
  total (fun l => l.brightness.length) s.lights +
    total (fun l => l.active.length + l.volume.length + l.pitch.length) s.sounds +
    total (fun l => l.active.length) s.emitters +
    total (fun l => l.motion.length) s.objects

end Stage

/-- parts after they were read, what they give, and the names asked for, all in order -/
structure Reading (τ ω : Type) where
  state : τ
  output : List ω
  asked : List String

/-- parts read one after the other, from a place on -/
def Reading.all {τ ω : Type} (read : Nat → τ → Reading τ ω) (index : Nat) : List τ → Reading (List τ) ω
  | [] => ⟨[], [], []⟩
  | part :: parts =>
    let first := read index part
    let rest := all read (index + 1) parts
    ⟨first.state :: rest.state, first.output ++ rest.output, first.asked ++ rest.asked⟩

def LiveLight.read (s : Sampling) (l : LiveLight) : Reading LiveLight Float32 :=
  let e := l.brightness.brightness s
  ⟨{ l with brightness := e.channel }, [e.result], e.asked⟩

def LiveObject.read (s : Sampling) (o : LiveObject) : Reading LiveObject Pose :=
  let e := o.motion.pose s
  ⟨{ o with motion := e.channel }, [e.result], e.asked⟩

namespace Stage

/-- the brightness of every light -/
def readLights (s : Sampling) (stage : Stage) : Reading (List LiveLight) Float32 :=
  Reading.all (fun _ l => l.read s) 0 stage.lights

/-- the pose of every moving object -/
def readObjects (s : Sampling) (stage : Stage) : Reading (List LiveObject) Pose :=
  Reading.all (fun _ o => o.read s) 0 stage.objects

end Stage

end Stagecraft
