/-
Whole numbers as doubles, and the two quotients that a ramp comes to rest at.

Whole numbers below `2 ^ 53` are exact: a number with its highest bit at `k` is the mantissa shifted up to 53 bits, with
the exponent `k - 52`.

- `unpack_pack`: what is packed in 53 bits of mantissa is unpacked as it was.
- `ofNat_unpack`: a positive whole number, unpacked.
- `ofNat_div_self`, `zero_div_ofNat`: a number over itself is 1, and 0 over a number is 0.
-/
import Mathlib
import Stagecraft.Number.Scalar

namespace Stagecraft.Double

open Float.Model Float.Model.UnpackedFloat

/-! ## Packing -/

theorem unpackSign_packComponents (spec : Format) (s : Sign) (e : BitVec spec.exponentBits)
    (m : BitVec spec.mantissaBitsWithoutImplicit) : unpackSign (packComponents spec s e m) = s.toBitVec := by
  ext i hi
  have hfirst : i = 0 := Nat.lt_one_iff.1 hi
  simp [unpackSign, packComponents, BitVec.getElem_append, BitVec.getLsbD_append, hfirst]

/-- the highest bit of a full mantissa is not packed, and comes back when it is unpacked -/
theorem implicit_append (m : Nat) (hm : m.log2 = 52) : (1#1 ++ BitVec.ofNat 52 m).toNat = m := by
  have hpos : m ≠ 0 := by
    rintro rfl
    simp at hm
  obtain ⟨hlow, hhigh⟩ := (Nat.log2_eq_iff hpos).1 hm
  rw [BitVec.toNat_append, ← Nat.shiftLeft_add_eq_or_of_lt (BitVec.isLt _)]
  simp only [BitVec.toNat_ofNat, Nat.shiftLeft_eq]
  omega

/-- a full mantissa with an exponent in bounds is unpacked as it was packed -/
theorem unpack_pack (s : Sign) (m : Nat) (e : Int) (h : 0 < m) (hm : m.log2 = 52) (hlow : -1074 ≤ e)
    (hhigh : e ≤ 971) : (Float.Model.pack (.finite s m e h)).unpack = .finite s m e h := by
  have hbiased : (BitVec.ofNat 11 (e + 1075).toNat).toNat = (e + 1075).toNat := by
    rw [BitVec.toNat_ofNat, Nat.mod_eq_of_lt (by omega)]
  have hones : BitVec.ofNat 11 (e + 1075).toNat ≠ -1#11 := by
    intro hall
    have := congrArg BitVec.toNat hall
    rw [hbiased, show (-1#11).toNat = 2047 from rfl] at this
    omega
  have hzero : BitVec.ofNat 11 (e + 1075).toNat ≠ 0#11 := by
    intro hnone
    have := congrArg BitVec.toNat hnone
    rw [hbiased, show (0#11).toNat = 0 from rfl] at this
    omega
  have hpacked : UnpackedFloat.pack .binary64 (.finite s m e h) =
      packComponents .binary64 s (BitVec.ofNat 11 (e + 1075).toNat) (BitVec.ofNat 52 m) := by
    have hbias : e + (Format.exponentBias .binary64 : Nat) + (52 : Nat) = e + 1075 := by
      simp [Format.exponentBias]
      omega
    simp only [UnpackedFloat.pack]
    rw [hbias, if_neg (by omega), if_pos (by rw [hm]; rfl)]
  unfold Float.Model.unpack Float.Model.pack
  simp only [hpacked, UnpackedFloat.unpack, unpackMantissa_packComponents, unpackExponent_packComponents,
    unpackSign_packComponents, hones, hzero, if_false, implicit_append m hm, hbiased]
  congr 1
  · cases s <;> rfl
  · simp only [Format.exponentBias]
    omega

/-! ## Rounding what needs none -/

theorem log2_mul_two_pow {n : Nat} (hn : n ≠ 0) (k : Nat) : (n * 2 ^ k).log2 = n.log2 + k := by
  induction k with
  | zero => simp
  | succ k ih =>
    have hpos : n * 2 ^ k ≠ 0 := Nat.mul_ne_zero hn (Nat.two_pow_pos k).ne'
    rw [show n * 2 ^ (k + 1) = 2 * (n * 2 ^ k) by ring, Nat.log2_two_mul hpos, ih, Nat.add_assoc]

/-- shifting out bits that are all zero leaves nothing behind -/
theorem shift_exact (m k : Nat) :
    ExtendedMantissa.ofMantissaAndAccuracy (m * 2 ^ k) .exact >>> k = ⟨m, false, false⟩ := by
  change k.repeat ExtendedMantissa.shiftRightOne _ = _
  induction k generalizing m with
  | zero => simp [Nat.repeat, ExtendedMantissa.ofMantissaAndAccuracy]
  | succ k ih =>
    rw [Nat.repeat, show m * 2 ^ (k + 1) = m * 2 * 2 ^ k by ring, ih]
    simp [ExtendedMantissa.shiftRightOne]

theorem shiftToTarget_exact (m k : Nat) (e : Int) (hm : m.log2 = 52) (he : -1074 ≤ e + k) :
    shiftToTargetExponent .binary64 (m * 2 ^ k) e .exact = (⟨m, false, false⟩, e + k) := by
  have hpos : m ≠ 0 := by
    rintro rfl
    simp at hm
  have htarget : Format.targetExponent .binary64 (totalExponent (m * 2 ^ k) e) = e + k := by
    simp only [Format.targetExponent, totalExponent, Format.mantissaBits, Format.minExponent]
    rw [log2_mul_two_pow hpos, hm]
    omega
  rw [shiftToTargetExponent, htarget, shiftToExponent, show (e + k - e).toNat = k by omega, shift_exact]

/-- a full mantissa, however far shifted up, is rounded to itself -/
theorem round_exact (s : Sign) (m k : Nat) (e : Int) (h : 0 < m) (hm : m.log2 = 52) (he : -1074 ≤ e + k) :
    roundWithAccuracy .binary64 s (m * 2 ^ k) e .exact = .finite s m (e + k) h := by
  have hagain : shiftToTargetExponent .binary64 m (e + k) .exact = (⟨m, false, false⟩, e + k) := by
    simpa using shiftToTarget_exact m 0 (e + k) hm (by omega)
  have hrounded : ExtendedMantissa.roundedMantissa ⟨m, false, false⟩ = m := rfl
  rw [roundWithAccuracy, shiftToTarget_exact m k e hm he]
  simp only [hrounded, hagain]
  rw [dif_neg h.ne']

/-! ## Whole numbers -/

/-- the mantissa of a positive whole number -/
def mantissa (n : Nat) : Nat := n * 2 ^ (52 - n.log2)

theorem log2_mantissa {n : Nat} (hn : 0 < n) (hb : n < 2 ^ 53) : (mantissa n).log2 = 52 := by
  have hlog : n.log2 < 53 := (Nat.log2_lt hn.ne').2 hb
  rw [mantissa, log2_mul_two_pow hn.ne']
  omega

theorem mantissa_pos {n : Nat} (hn : 0 < n) : 0 < mantissa n := Nat.mul_pos hn (Nat.two_pow_pos _)

/-- a positive whole number below `2 ^ 53` is rounded to itself -/
theorem round_ofNat {n : Nat} (hn : 0 < n) (hb : n < 2 ^ 53) :
    UnpackedFloat.ofNat .binary64 n = .finite .positive (mantissa n) (n.log2 - 52) (mantissa_pos hn) := by
  have hlog : n.log2 < 53 := (Nat.log2_lt hn.ne').2 hb
  have htarget : Format.targetExponent .binary64 (totalExponent n 0) = n.log2 - 52 := by
    simp only [Format.targetExponent, totalExponent, Format.mantissaBits, Format.minExponent]
    omega
  have hround := round_exact .positive (mantissa n) 0 (n.log2 - 52) (mantissa_pos hn) (log2_mantissa hn hb) (by omega)
  unfold UnpackedFloat.ofNat UnpackedFloat.ofInt UnpackedFloat.normalize
  rw [Int.compare_eq_gt.2 (by omega)]
  simp only [Int.toNat_natCast, UnpackedFloat.round, htarget, decreaseExponent, Nat.shiftLeft_eq]
  rw [show (0 - ((n.log2 : Int) - 52)).toNat = 52 - n.log2 by omega,
    show (0 : Int) - (52 - n.log2 : Nat) = n.log2 - 52 by omega]
  simpa [mantissa] using hround

/-- a positive whole number below `2 ^ 53`, unpacked -/
theorem ofNat_unpack {n : Nat} (hn : 0 < n) (hb : n < 2 ^ 53) :
    (Float.ofNat n).toModel.unpack = .finite .positive (mantissa n) (n.log2 - 52) (mantissa_pos hn) := by
  have hlog : n.log2 < 53 := (Nat.log2_lt hn.ne').2 hb
  have hword : n.toUInt64.toNat = n := by
    simpa using Nat.mod_eq_of_lt (by omega : n < 2 ^ 64)
  -- a whole number is read as a word and multiplied by ten to the power of zero
  have hmodel : (Float.ofNat n).toModel = Float.Model.pack (UnpackedFloat.mul .binary64
      (Float.Model.pack (UnpackedFloat.ofNat .binary64 n)).unpack (Float.Model.ofBits 0x3FF0000000000000).unpack) := by
    rw [Float.ofNat]
    change (Float.ofScientific n false 0).toModel = _
    rw [Float.ofScientific, dif_pos ⟨hb, by decide⟩]
    conv_rhs => rw [← hword]
    rfl
  have hone : (Float.Model.ofBits 0x3FF0000000000000).unpack = .finite .positive (2 ^ 52) (-52) (by decide) := rfl
  have hpacked := unpack_pack .positive (mantissa n) (n.log2 - 52) (mantissa_pos hn) (log2_mantissa hn hb) (by omega)
    (by omega)
  rw [hmodel, round_ofNat hn hb, hpacked, hone]
  have hround := round_exact .positive (mantissa n) 52 (n.log2 - 52 + -52) (mantissa_pos hn) (log2_mantissa hn hb)
    (by omega)
  rw [show (n.log2 : Int) - 52 + -52 + (52 : Nat) = n.log2 - 52 by omega] at hround
  exact (congrArg (fun f => (Float.Model.pack f).unpack) hround).trans hpacked

/-! ## Quotients -/

/-- a finite number that is not zero, over itself -/
theorem div_self (s : Sign) (m : Nat) (e : Int) (h : 0 < m) :
    UnpackedFloat.div .binary64 (.finite s m e h) (.finite s m e h) = .finite .positive (2 ^ 52) (-52) (by decide) := by
  have hcore : divCore .binary64 m e m e = (2 ^ 52 * 2 ^ 1, -53, .exact) := by
    have htarget : min 0 (Format.targetExponent .binary64 0) = -53 := by decide
    have hshift : (0 - -53 : Int).toNat = 53 := by decide
    simp only [divCore, Int.sub_self, htarget, hshift, Nat.shiftLeft_eq, Nat.mul_div_cancel_left _ h,
      Nat.mul_mod_right, accuracyOfFraction, if_true]
    rfl
  have hsign : s / s = .positive := by cases s <;> rfl
  simp only [UnpackedFloat.div, hcore, hsign]
  exact round_exact .positive (2 ^ 52) 1 (-53) _ (by decide) (by decide)

/-- a positive whole number over itself is 1 -/
theorem ofNat_div_self {n : Nat} (hn : 0 < n) (hb : n < 2 ^ 53) : Float.ofNat n / Float.ofNat n = Float.ofNat 1 := by
  change Float.ofModel (Float.Model.pack (UnpackedFloat.div .binary64 (Float.ofNat n).toModel.unpack
    (Float.ofNat n).toModel.unpack)) = _
  rw [ofNat_unpack hn hb, div_self]
  rfl

/-- nothing over a positive whole number is nothing -/
theorem zero_div_ofNat {n : Nat} (hn : 0 < n) (hb : n < 2 ^ 53) : Float.ofNat 0 / Float.ofNat n = Float.ofNat 0 := by
  change Float.ofModel (Float.Model.pack (UnpackedFloat.div .binary64 (Float.ofNat 0).toModel.unpack
    (Float.ofNat n).toModel.unpack)) = _
  rw [ofNat_unpack hn hb]
  rfl

end Stagecraft.Double
