/-
Between double and single precision. Host outputs (volume, pitch, brightness) and the partial tick are single; all
arithmetic in between is double.

`nearest` rounds to the nearest single, ties to even, and overflows to an infinity; `widen` is exact. Both are read
off the unpacked number, so a statement about them is a statement about sign, mantissa and exponent.
-/
namespace Stagecraft.Single

open Float.Model

/-- the single nearest to a double -/
def nearest (x : Float) : Float32 :=
  match x.toModel.unpack with
  | .finite s m e _ => .ofModel (.pack (UnpackedFloat.round .binary32 s m e))
  | u => .ofModel (.pack u)

/-- the single nearest to an integer, rounded once -/
def ofInt (n : Int) : Float32 :=
  .ofModel (.pack (UnpackedFloat.normalize .binary32 n 0 .positive))

/-- a single as a double; every single is one -/
def widen (x : Float32) : Float :=
  match x.toModel.unpack with
  | .finite s m e _ => .ofModel (.pack (UnpackedFloat.round .binary64 s m e))
  | u => .ofModel (.pack u)

end Stagecraft.Single
