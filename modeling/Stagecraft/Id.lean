/-
Identifiers. A host names worlds and entities; the parts of an entity are named by their place in its definition, as a
32-bit word.
-/
namespace Stagecraft

structure WorldId where
  val : UInt32
deriving DecidableEq, Repr

structure EntityId where
  val : UInt32
deriving DecidableEq, Repr

structure LightId where
  val : UInt32
deriving DecidableEq, Repr

structure SoundId where
  val : UInt32
deriving DecidableEq, Repr

structure ParticleId where
  val : UInt32
deriving DecidableEq, Repr

structure ObjectId where
  val : UInt32
deriving DecidableEq, Repr

def LightId.ofIndex (n : Nat) : LightId := ⟨UInt32.ofNat n⟩

def SoundId.ofIndex (n : Nat) : SoundId := ⟨UInt32.ofNat n⟩

def ParticleId.ofIndex (n : Nat) : ParticleId := ⟨UInt32.ofNat n⟩

def ObjectId.ofIndex (n : Nat) : ObjectId := ⟨UInt32.ofNat n⟩

def WorldId.label (w : WorldId) : String := "WorldId(" ++ toString w.val.toNat ++ ")"

def EntityId.label (e : EntityId) : String := "EntityId(" ++ toString e.val.toNat ++ ")"

end Stagecraft
