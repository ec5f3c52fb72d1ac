/-
What an entity presents: its lights, sounds, particle emitters and moving objects, each with the animations of its
channels, and the flags that are always on for it.
-/
import Stagecraft.Animation.Basic

namespace Stagecraft

/-- a light of a model object -/
structure Light where
  objectName : String
  brightness : List (Animation Float)
deriving DecidableEq, Repr

/-- a sound -/
structure Sound where
  name : String
  looping : Bool
  /-- starts on every tick that qualifies, also while it plays -/
  forced : Bool
  /-- heard only from inside -/
  interior : Bool
  /-- heard only from outside -/
  exterior : Bool
  active : List (Animation Float)
  volume : List (Animation Float)
  pitch : List (Animation Float)
deriving DecidableEq, Repr

/-- a source of particles -/
structure Emitter where
  particle : String
  quantity : UInt32
  /-- goes on spawning while its gate is open -/
  everyTick : Bool
  active : List (Animation Float)
deriving DecidableEq, Repr

/-- the particles of one spawn, at least one -/
def Emitter.spawnCount (e : Emitter) : UInt32 := if e.quantity = 0 then 1 else e.quantity

/-- a part of the model that moves -/
structure MovingObject where
  name : String
  motion : List (Animation Float)
deriving DecidableEq, Repr

/-- everything that one entity presents -/
structure Presentation where
  lights : List Light
  sounds : List Sound
  emitters : List Emitter
  objects : List MovingObject
  constants : List String
deriving DecidableEq, Repr

end Stagecraft
