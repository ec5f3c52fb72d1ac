/-
The numbers of an animation. Shaping a value and smoothing a level use a handful of operations; they are collected
here once, so that the same definition runs on `Float` and can be read over an exact ordered field.

`Scalar.sign` keeps zero, and takes what compares with nothing (a NaN) to zero as well.
-/
namespace Stagecraft

/-- the operations that smoothing uses; the comparisons are those of the carrier, so a NaN compares false -/
class Scalar (α : Type) extends Add α, Sub α, Mul α, Div α, Neg α, LT α, LE α where
  ofNat : Nat → α
  abs : α → α
  isZero : α → Bool
  decLt : DecidableLT α
  decLe : DecidableLE α

/-- the length of an axis takes a square root as well -/
class RootScalar (α : Type) extends Scalar α where
  sqrt : α → α

namespace Scalar

attribute [reducible, instance] decLt decLe

instance : Scalar Float where
  ofNat := Float.ofNat
  abs := Float.abs
  isZero x := x == Float.ofNat 0
  decLt := inferInstance
  decLe := inferInstance

instance : RootScalar Float where
  sqrt := Float.sqrt

/-- minus one, zero or one, by the side of zero on which a number lies -/
def sign {α : Type} [Scalar α] (x : α) : α :=
  if ofNat 0 < x then ofNat 1 else if x < ofNat 0 then -ofNat 1 else ofNat 0

end Scalar

end Stagecraft
