/-
Where singles end. The largest single is `(2 ^ 24 - 1) * 2 ^ 104`; what is at least halfway from it to `2 ^ 128` is rounded to
an infinity, and everything below that to a single. A product with a factor of at most 1 never gets there.

- `rounds_below`: what is less than halfway is rounded to an exponent in bounds.
- `rounds_above`: what is at least halfway is not.
- `isLevel_nearest`, `isLevel_mul`: a double rounded to a single, and a single muffled.
-/
import Mathlib.Tactic
import Stagecraft.Number.Single
import Stagecraft.Proofs.Number.Quotient

namespace Stagecraft.Single

open Float.Model Float.Model.UnpackedFloat

/-! ## Shifting and rounding -/

theorem shift_mantissa (m k : Nat) (accuracy : Accuracy) :
    (ExtendedMantissa.ofMantissaAndAccuracy m accuracy >>> k).mantissa = m / 2 ^ k := by
  change (k.repeat ExtendedMantissa.shiftRightOne _).mantissa = _
  induction k with
  | zero => rcases accuracy with _ | _ | _ | _ <;> simp [Nat.repeat, ExtendedMantissa.ofMantissaAndAccuracy]
  | succ k ih =>
    rw [Nat.repeat, ExtendedMantissa.shiftRightOne, ih, Nat.div_div_eq_div_mul, pow_succ]

/-- the bit that was shifted out last -/
theorem shift_roundBit (m k : Nat) :
    (ExtendedMantissa.ofMantissaAndAccuracy m .exact >>> (k + 1)).roundBit = (m / 2 ^ k % 2 != 0) := by
  rw [← shift_mantissa m k .exact]
  rfl

/-- rounding is up if more than half is cut off, and of a half just from an odd mantissa -/
theorem roundedMantissa_eq (em : ExtendedMantissa) :
    em.roundedMantissa = em.mantissa + (em.roundBit && (em.stickyBit || em.mantissa % 2 == 1)).toNat := by
  obtain ⟨m, roundBit, stickyBit⟩ := em
  cases roundBit with
  | false => cases stickyBit <;> rfl
  | true =>
    cases stickyBit with
    | true => rfl
    | false =>
      change m + m % 2 = m + (m % 2 == 1).toNat
      rcases Nat.mod_two_eq_zero_or_one m with heven | hodd
      · rw [heven]
        rfl
      · rw [hodd]
        rfl

/-- the exponent at which a number is rounded -/
def gridExponent (m : Nat) (e : Int) : Int := max e (max (m.log2 + 1 + e - 24) (-149))

/-- its mantissa, rounded there -/
def gridMantissa (m : Nat) (e : Int) : Nat :=
  (ExtendedMantissa.ofMantissaAndAccuracy m .exact >>> (gridExponent m e - e).toNat).roundedMantissa

/-- a rounded mantissa that got too long is shifted once more -/
theorem round_eq (s : Sign) (m : Nat) (e : Int) :
    roundWithAccuracy .binary32 s m e .exact =
      if h : gridMantissa m e / 2 ^ ((gridMantissa m e).log2 - 23) = 0 then .zero s
      else .finite s (gridMantissa m e / 2 ^ ((gridMantissa m e).log2 - 23))
        (gridExponent m e + ((gridMantissa m e).log2 - 23 : Nat)) (Nat.pos_of_ne_zero h) := by
  have htarget : ∀ (m : Nat) (e : Int), Format.targetExponent .binary32 (totalExponent m e) =
      max (m.log2 + 1 + e - 24) (-149) := by
    intro m e
    simp only [Format.targetExponent, totalExponent, Format.mantissaBits, Format.minExponent]
    omega
  have hfirst : shiftToTargetExponent .binary32 m e .exact =
      (ExtendedMantissa.ofMantissaAndAccuracy m .exact >>> (gridExponent m e - e).toNat, gridExponent m e) := by
    rw [shiftToTargetExponent, shiftToExponent, htarget]
    have hshift : (max ((m.log2 : Int) + 1 + e - 24) (-149) - e).toNat = (gridExponent m e - e).toNat := by
      rw [gridExponent]
      omega
    rw [hshift]
    congr 1
    rw [gridExponent]
    omega
  have hsecond : shiftToTargetExponent .binary32 (gridMantissa m e) (gridExponent m e) .exact =
      (ExtendedMantissa.ofMantissaAndAccuracy (gridMantissa m e) .exact >>> ((gridMantissa m e).log2 - 23),
        gridExponent m e + ((gridMantissa m e).log2 - 23 : Nat)) := by
    rw [shiftToTargetExponent, shiftToExponent, htarget]
    have hlow : -149 ≤ gridExponent m e := by
      rw [gridExponent]
      omega
    have hshift : (max (((gridMantissa m e).log2 : Int) + 1 + gridExponent m e - 24) (-149) - gridExponent m e).toNat =
        (gridMantissa m e).log2 - 23 := by omega
    rw [hshift]
  have hrounded : (ExtendedMantissa.ofMantissaAndAccuracy m .exact >>> (gridExponent m e - e).toNat).roundedMantissa =
      gridMantissa m e := rfl
  rw [roundWithAccuracy, hfirst]
  simp only [hrounded, hsecond, shift_mantissa]

section Grid

variable (m : Nat) (e : Int)

theorem gridMantissa_bounds :
    let q := m / 2 ^ (gridExponent m e - e).toNat
    q < 2 ^ 24 ∧ q ≤ gridMantissa m e ∧ gridMantissa m e ≤ q + 1 := by
  intro q
  have hround := roundedMantissa_eq (ExtendedMantissa.ofMantissaAndAccuracy m .exact >>> (gridExponent m e - e).toNat)
  rw [shift_mantissa, ← gridMantissa] at hround
  rw [hround]
  refine ⟨?_, Nat.le_add_right _ _, Nat.add_le_add_left (Bool.toNat_le _) _⟩
  have hlog : m.log2 + 1 ≤ 24 + (gridExponent m e - e).toNat := by
    rw [gridExponent]
    omega
  apply Nat.div_lt_of_lt_mul
  calc m < 2 ^ (m.log2 + 1) := Nat.lt_log2_self
    _ ≤ 2 ^ (24 + (gridExponent m e - e).toNat) := Nat.pow_le_pow_right (by decide) hlog
    _ = 2 ^ (gridExponent m e - e).toNat * 2 ^ 24 := by rw [pow_add, mul_comm]

/-- an odd quotient is rounded by the bit behind it -/
theorem gridMantissa_odd {k : Nat} (hk : (gridExponent m e - e).toNat = k + 1) (hodd : m / 2 ^ (k + 1) % 2 = 1) :
    gridMantissa m e = m / 2 ^ (k + 1) + (m / 2 ^ k % 2 != 0).toNat := by
  rw [gridMantissa, hk, roundedMantissa_eq, shift_mantissa, shift_roundBit, hodd, beq_self_eq_true, Bool.or_true, Bool.and_true]

end Grid

/-! ## The end -/

theorem log2_lt_of_lt {n k : Nat} (hk : 0 < k) (hn : n < 2 ^ k) : n.log2 < k := by
  rcases Nat.eq_zero_or_pos n with rfl | hpos
  · rwa [Nat.log2_zero]
  · exact (Nat.log2_lt hpos.ne').2 hn

/-- zero, or a number whose exponent a single can have -/
inductive Fits (s : Sign) : UnpackedFloat → Prop
  | zero : Fits s (.zero s)
  | finite (m : Nat) (e : Int) (h : 0 < m) (he : e ≤ 104) : Fits s (.finite s m e h)

/-- what is less than halfway from the largest single to `2 ^ 128` is rounded to a single -/
theorem rounds_below (s : Sign) {m : Nat} {e : Int} (he : e ≤ 103) (hm : m < (2 ^ 25 - 1) * 2 ^ (103 - e).toNat) :
    Fits s (roundWithAccuracy .binary32 s m e .exact) := by
  obtain ⟨hq, -, hr⟩ := gridMantissa_bounds m e
  have hlog : (m.log2 : Int) + e ≤ 127 := by
    have hlt : m < 2 ^ (25 + (103 - e).toNat) := by
      rw [pow_add]
      exact hm.trans (Nat.mul_lt_mul_of_pos_right (by decide) (Nat.two_pow_pos _))
    have := log2_lt_of_lt (by omega) hlt
    omega
  have hgrid : gridExponent m e ≤ 104 := by
    rw [gridExponent]
    omega
  have hexponent : gridExponent m e + ((gridMantissa m e).log2 - 23 : Nat) ≤ 104 := by
    rcases hgrid.lt_or_eq with hlt | hlast
    · have : (gridMantissa m e).log2 < 25 := log2_lt_of_lt (by decide) (by omega)
      omega
    · -- at the last exponent the mantissa must not be rounded up to `2 ^ 24`
      have hk : (gridExponent m e - e).toNat = (103 - e).toNat + 1 := by omega
      have hhalf : m / 2 ^ (103 - e).toNat < 2 ^ 25 - 1 := Nat.div_lt_of_lt_mul (by rwa [mul_comm])
      have hsplit : m / 2 ^ ((103 - e).toNat + 1) = m / 2 ^ (103 - e).toNat / 2 := by
        rw [Nat.div_div_eq_div_mul, pow_succ]
      rw [hk] at hq hr
      have hshort : gridMantissa m e < 2 ^ 24 := by
        by_cases hfull : m / 2 ^ ((103 - e).toNat + 1) = 2 ^ 24 - 1
        · have heven : m / 2 ^ (103 - e).toNat % 2 = 0 := by omega
          rw [gridMantissa_odd m e hk (by omega), heven, hfull]
          decide
        · omega
      have := log2_lt_of_lt (by decide) hshort
      omega
  rw [round_eq]
  split_ifs
  · exact .zero
  · exact .finite _ _ _ hexponent

/-- what is at least halfway is rounded to no single -/
theorem rounds_above (s : Sign) {m : Nat} {e : Int} (hlog : m.log2 = 52) (he : 75 < e ∨ e = 75 ∧ 2 ^ 53 - 2 ^ 28 ≤ m) :
    ∃ m' e' h, roundWithAccuracy .binary32 s m e .exact = .finite s m' e' h ∧ 105 ≤ e' := by
  have hpos : m ≠ 0 := by
    rintro rfl
    simp at hlog
  obtain ⟨hlow, hhigh⟩ := (Nat.log2_eq_iff hpos).1 hlog
  have hgrid : gridExponent m e = e + 29 := by
    rw [gridExponent]
    omega
  have hk : (gridExponent m e - e).toNat = 28 + 1 := by omega
  obtain ⟨-, hr, -⟩ := gridMantissa_bounds m e
  rw [hk] at hr
  have hnonzero : gridMantissa m e / 2 ^ ((gridMantissa m e).log2 - 23) ≠ 0 := by
    have hr0 : gridMantissa m e ≠ 0 := by omega
    have hself := Nat.log2_self_le hr0
    have hpow : 2 ^ ((gridMantissa m e).log2 - 23) ≤ 2 ^ (gridMantissa m e).log2 :=
      Nat.pow_le_pow_right (by decide) (Nat.sub_le _ _)
    exact (Nat.div_pos (hpow.trans hself) (Nat.two_pow_pos _)).ne'
  rw [round_eq, dif_neg hnonzero]
  refine ⟨_, _, _, rfl, ?_⟩
  rcases he with hbeyond | ⟨rfl, hhalf⟩
  · omega
  · -- the mantissa is rounded up to `2 ^ 24`, which takes one more shift
    have hodd : m / 2 ^ 28 = 2 ^ 25 - 1 := by omega
    have hfull : gridMantissa m 75 = 2 ^ 24 := by
      have hquotient : m / 2 ^ (28 + 1) = 2 ^ 24 - 1 := by omega
      rw [gridMantissa_odd m 75 hk (by omega), hodd, hquotient]
      decide
    rw [hfull, Nat.log2_two_pow, hgrid]
    decide

/-! ## Packing -/

/-- a zero or a positive number, unpacked -/
def bounded : UnpackedFloat → Bool
  | .zero _ => true
  | .finite .positive _ _ _ => true
  | _ => false

theorem bounded_unpack (exponent : BitVec 8) (mantissa : BitVec 23) (hexponent : exponent ≠ -1#8) :
    bounded (UnpackedFloat.unpack .binary32 (packComponents .binary32 .positive exponent mantissa)) = true := by
  have hsign : Sign.ofBitVec Sign.positive.toBitVec = .positive := rfl
  simp only [UnpackedFloat.unpack, unpackMantissa_packComponents, unpackExponent_packComponents,
    Double.unpackSign_packComponents, hexponent, hsign, if_false]
  split_ifs <;> rfl

/-- what is rounded to an exponent in bounds comes back as a number -/
theorem bounded_pack {u : UnpackedFloat} (h : Fits .positive u) : bounded (Float32.Model.pack u).unpack = true := by
  change bounded (UnpackedFloat.unpack .binary32 (UnpackedFloat.pack .binary32 u)) = true
  cases h with
  | zero => rfl
  | finite m e hm he =>
    have hbias : (e + (Format.exponentBias .binary32 : Nat) + (23 : Nat)).toNat = (e + 150).toNat := by
      simp [Format.exponentBias]
      omega
    have hsmall : (e + 150).toNat < 255 := by omega
    have hexponent : BitVec.ofNat 8 (e + 150).toNat ≠ -1#8 := by
      intro hall
      have := congrArg BitVec.toNat hall
      rw [BitVec.toNat_ofNat, Nat.mod_eq_of_lt (by omega), show (-1#8).toNat = 255 from rfl] at this
      omega
    simp only [UnpackedFloat.pack]
    rw [hbias, if_neg (by omega)]
    split_ifs
    · exact bounded_unpack _ _ hexponent
    · exact bounded_unpack _ _ (by decide)

/-- and what is not comes back as an infinity -/
theorem infinity_pack {s : Sign} {m : Nat} {e : Int} {h : 0 < m} (he : 105 ≤ e) :
    (Float32.Model.pack (.finite s m e h)).unpack = .infinity s := by
  have hbias : (e + (Format.exponentBias .binary32 : Nat) + (23 : Nat)).toNat = (e + 150).toNat := by
    simp [Format.exponentBias]
    omega
  change UnpackedFloat.unpack .binary32 (UnpackedFloat.pack .binary32 _) = _
  simp only [UnpackedFloat.pack]
  rw [hbias, if_pos (by omega)]
  cases s <;> rfl

/-- the numbers of a format: those below the least full mantissa have the least exponent -/
theorem unpack_finite {spec : Format} {b : BitVec spec.numBits} {s : Sign} {m : Nat} {e : Int} {h : 0 < m}
    (hb : UnpackedFloat.unpack spec b = .finite s m e h) :
    let bits := spec.mantissaBitsWithoutImplicit
    m < 2 ^ bits ∧ e + spec.exponentBias + bits = 1 ∨
      2 ^ bits ≤ m ∧ m < 2 ^ (1 + bits) ∧ e + spec.exponentBias + bits + 1 < (2 : Int) ^ spec.exponentBits := by
  intro bits
  simp only [UnpackedFloat.unpack] at hb
  split_ifs at hb with hall hnan hnone hzero
  · obtain ⟨-, rfl, rfl⟩ := UnpackedFloat.finite.inj hb
    refine .inl ⟨(unpackMantissa b).isLt, ?_⟩
    rw [hnone]
    simp [bits]
    omega
  · obtain ⟨-, rfl, rfl⟩ := UnpackedFloat.finite.inj hb
    refine .inr ⟨?_, (1#1 ++ unpackMantissa b).isLt, ?_⟩
    · rw [BitVec.toNat_append]
      exact (Nat.left_le_or).trans' (by simp [Nat.shiftLeft_eq, bits])
    · -- an exponent that is not all ones
      have hall : (unpackExponent b).toNat ≠ 2 ^ spec.exponentBits - 1 := by
        intro hones
        apply hall
        rw [BitVec.neg_one_eq_allOnes, ← BitVec.toNat_inj, BitVec.toNat_allOnes, hones]
      have hlt : (unpackExponent b).toNat + 1 < 2 ^ spec.exponentBits := by
        have := (unpackExponent b).isLt
        omega
      have hcast : ((unpackExponent b).toNat : Int) + 1 < 2 ^ spec.exponentBits := by exact_mod_cast hlt
      omega

/-- the numbers that singles are -/
theorem unpack_single {v : Float32} {s : Sign} {m : Nat} {e : Int} {h : 0 < m} (hv : v.toModel.unpack = .finite s m e h) :
    m < 2 ^ 24 ∧ e ≤ 104 := by
  have hnumber := unpack_finite hv
  simp only [Format.exponentBias] at hnumber
  omega

/-- the numbers that doubles are -/
theorem unpack_double {x : Float} {s : Sign} {m : Nat} {e : Int} {h : 0 < m} (hx : x.toModel.unpack = .finite s m e h) :
    m.log2 = 52 ∨ m < 2 ^ 52 ∧ e = -1074 := by
  have hnumber := unpack_finite hx
  simp only [Format.exponentBias] at hnumber
  rw [Nat.log2_eq_iff h.ne']
  omega

/-! ## Levels -/

/-- positive numbers of a format compare by exponent first -/
theorem lt_finite {m m' : Nat} {e e' : Int} {h : 0 < m} {h' : 0 < m'} :
    (UnpackedFloat.finite .positive m e h).lt (.finite .positive m' e' h') = true ↔ e < e' ∨ e = e' ∧ m < m' := by
  simp [UnpackedFloat.lt, UnpackedFloat.compare, Ordering.then_eq_lt, compare_lt_iff_lt]

theorem le_finite {m m' : Nat} {e e' : Int} {h : 0 < m} {h' : 0 < m'} :
    (UnpackedFloat.finite .positive m e h).le (.finite .positive m' e' h') = true ↔ e < e' ∨ e = e' ∧ m ≤ m' := by
  simp [UnpackedFloat.le, UnpackedFloat.compare, Ordering.isLE_then_iff_or, compare_lt_iff_lt, Nat.isLE_compare]

/-- neither NaN nor negative nor infinite -/
def IsLevel (v : Float32) : Prop := v.isNaN = false ∧ ¬v < 0 ∧ v.isInf = false

instance : DecidablePred IsLevel := fun _ => inferInstanceAs (Decidable (_ ∧ _ ∧ _))

theorem lt_iff (v w : Float32) : v < w ↔ v.toModel.unpack.lt w.toModel.unpack = true := decide_eq_true_iff

theorem le_iff (v w : Float32) : v ≤ w ↔ v.toModel.unpack.le w.toModel.unpack = true := decide_eq_true_iff

theorem isLevel_iff (v : Float32) : IsLevel v ↔ bounded v.toModel.unpack = true := by
  have hzero : (0 : Float32).toModel.unpack = .zero .positive := rfl
  have hnan : v.isNaN = v.toModel.unpack.isNaN := rfl
  have hinf : v.isInf = v.toModel.unpack.isInf := rfl
  rw [IsLevel, lt_iff, hzero, hnan, hinf]
  rcases v.toModel.unpack with (_ | _) | _ | (_ | _) | ⟨_ | _, m, e, h⟩ <;>
    simp [bounded, UnpackedFloat.isNaN, UnpackedFloat.isInf, UnpackedFloat.lt, UnpackedFloat.compare]

theorem of_infinity {v : Float32} (hv : v.toModel.unpack = .infinity .positive) : ¬IsLevel v ∧ ¬v < 0 ∧ v.isNaN = false := by
  rw [isLevel_iff, lt_iff, hv]
  exact ⟨Bool.false_ne_true, Bool.false_ne_true, congrArg UnpackedFloat.isNaN hv⟩

theorem of_notANumber {v : Float32} (hv : v.toModel.unpack = .notANumber) : ¬IsLevel v ∧ ¬v < 0 ∧ v.isNaN = true := by
  rw [isLevel_iff, lt_iff, hv]
  exact ⟨Bool.false_ne_true, Bool.false_ne_true, congrArg UnpackedFloat.isNaN hv⟩

/-- halfway from the largest single to `2 ^ 128` -/
def halfway : Float := .ofModel (.pack (.finite .positive (2 ^ 53 - 2 ^ 28) 75 (by decide)))

theorem halfway_unpack : halfway.toModel.unpack = .finite .positive (2 ^ 53 - 2 ^ 28) 75 (by decide) := rfl

theorem lt_double_iff (x y : Float) : x < y ↔ x.toModel.unpack.lt y.toModel.unpack = true := decide_eq_true_iff

/-- a double is rounded as it is unpacked -/
theorem nearest_of_unpack {x : Float} {s : Sign} {m : Nat} {e : Int} {h : 0 < m} (hx : x.toModel.unpack = .finite s m e h) :
    nearest x = .ofModel (.pack (roundWithAccuracy .binary32 s m e .exact)) := by
  have hlow : (e - Format.targetExponent .binary32 (totalExponent m e)).toNat = 0 := by
    simp only [Format.targetExponent, totalExponent, Format.mantissaBits, Format.minExponent]
    rcases unpack_double hx with hfull | ⟨-, hleast⟩ <;> omega
  rw [nearest, hx]
  simp only [UnpackedFloat.round, decreaseExponent, hlow]
  simp

/-- **A double rounded to a single.** Below halfway it is a level, and from there on it is infinite. -/
theorem isLevel_nearest {x : Float} (hx : x = Float.ofNat 0 ∨ Float.ofNat 0 < x) :
    (x < halfway → IsLevel (nearest x)) ∧ (¬x < halfway → (nearest x).toModel.unpack = .infinity .positive) := by
  have hzero : (Float.ofNat 0).toModel.unpack = .zero .positive := rfl
  rcases hx with rfl | hpos
  · exact ⟨fun _ => by decide, fun h => absurd (by decide) h⟩
  · rw [lt_double_iff, hzero] at hpos
    rw [lt_double_iff, halfway_unpack, isLevel_iff]
    rcases hu : x.toModel.unpack with (_ | _) | _ | _ | ⟨_ | _, m, e, h⟩ <;> rw [hu] at hpos
    case infinity.positive =>
      rw [nearest, hu]
      exact ⟨fun h => absurd h (by decide), fun _ => rfl⟩
    case finite.positive =>
      rw [lt_finite, nearest_of_unpack hu]
      have hnumber := unpack_double hu
      rw [Nat.log2_eq_iff h.ne'] at hnumber
      refine ⟨fun hbelow => bounded_pack (rounds_below _ (by omega) ?_), fun habove => ?_⟩
      · rcases hbelow with hless | ⟨rfl, hm⟩
        · calc m < 2 ^ 53 := by omega
            _ ≤ (2 ^ 25 - 1) * 2 ^ 29 := by decide
            _ ≤ (2 ^ 25 - 1) * 2 ^ (103 - e).toNat :=
              Nat.mul_le_mul_left _ (Nat.pow_le_pow_right (by decide) (by omega))
        · exact hm.trans_eq (by decide)
      · have hlog : m.log2 = 52 := (Nat.log2_eq_iff h.ne').2 (by omega)
        obtain ⟨m', e', h', hround, hhigh⟩ := rounds_above .positive hlog (e := e) (by omega)
        rw [hround]
        exact infinity_pack hhigh
    all_goals cases hpos

/-- a factor from 0 to 1, unpacked -/
theorem unpack_factor {factor : Float32} (hlow : 0 ≤ factor) (hhigh : factor ≤ 1) :
    (∃ s, factor.toModel.unpack = .zero s) ∨
      ∃ m e h, factor.toModel.unpack = .finite .positive m e h ∧ (e < -23 ∨ e = -23 ∧ m ≤ 2 ^ 23) := by
  have hzero : (0 : Float32).toModel.unpack = .zero .positive := rfl
  have hone : (1 : Float32).toModel.unpack = .finite .positive (2 ^ 23) (-23) (by decide) := rfl
  rw [le_iff, hzero] at hlow
  rw [le_iff, hone] at hhigh
  rcases hu : factor.toModel.unpack with (_ | _) | _ | s | ⟨_ | _, m, e, h⟩ <;> rw [hu] at hlow hhigh
  case zero => exact .inl ⟨s, rfl⟩
  case finite.positive => exact .inr ⟨m, e, h, rfl, le_finite.1 hhigh⟩
  case infinity.positive => cases hhigh
  all_goals cases hlow

theorem mul_unpack (v w : Float32) : (v * w).toModel.unpack =
    (Float32.Model.pack (UnpackedFloat.mul .binary32 v.toModel.unpack w.toModel.unpack)).unpack := rfl

theorem bounded_zero (s : Sign) : bounded (Float32.Model.pack (.zero s)).unpack = true := by cases s <;> rfl

/-- **A single muffled.** A level times a factor from 0 to 1 is a level. -/
theorem isLevel_mul {v factor : Float32} (hv : IsLevel v) (hlow : 0 ≤ factor) (hhigh : factor ≤ 1) : IsLevel (v * factor) := by
  rw [isLevel_iff] at hv ⊢
  rw [mul_unpack]
  rcases hu : v.toModel.unpack with _ | _ | s | ⟨_ | _, m, e, h⟩ <;> rw [hu] at hv
  case zero =>
    rcases unpack_factor hlow hhigh with ⟨s', hf⟩ | ⟨m', e', h', hf, -⟩ <;> rw [hf] <;> exact bounded_zero _
  case finite.positive =>
    rcases unpack_factor hlow hhigh with ⟨s', hf⟩ | ⟨m', e', h', hf, hsmall⟩ <;> rw [hf]
    · exact bounded_zero _
    · obtain ⟨hm, he⟩ := unpack_single hu
      obtain ⟨hm', -⟩ := unpack_single hf
      refine bounded_pack (rounds_below _ (by omega) ?_)
      rcases hsmall with hless | ⟨rfl, hpower⟩
      · calc m * m' ≤ (2 ^ 24 - 1) * (2 ^ 24 - 1) := Nat.mul_le_mul (by omega) (by omega)
          _ < (2 ^ 25 - 1) * 2 ^ 23 := by decide
          _ ≤ (2 ^ 25 - 1) * 2 ^ (103 - (e + e')).toNat :=
            Nat.mul_le_mul_left _ (Nat.pow_le_pow_right (by decide) (by omega))
      · calc m * m' ≤ (2 ^ 24 - 1) * 2 ^ 23 := Nat.mul_le_mul (by omega) hpower
          _ < (2 ^ 25 - 1) * 2 ^ 22 := by decide
          _ ≤ (2 ^ 25 - 1) * 2 ^ (103 - (e + -23)).toNat :=
            Nat.mul_le_mul_left _ (Nat.pow_le_pow_right (by decide) (by omega))
  all_goals cases hv

/-- an infinity times such a factor is an infinity, or a NaN if the factor is zero -/
theorem infinity_mul {v factor : Float32} (hv : v.toModel.unpack = .infinity .positive) (hlow : 0 ≤ factor)
    (hhigh : factor ≤ 1) : (v * factor).toModel.unpack = if 0 < factor then .infinity .positive else .notANumber := by
  have hzero : (0 : Float32).toModel.unpack = .zero .positive := rfl
  rw [mul_unpack, hv]
  rcases unpack_factor hlow hhigh with ⟨s, hf⟩ | ⟨m, e, h, hf, -⟩
  · rw [if_neg (by rw [lt_iff, hzero, hf]; exact Bool.false_ne_true), hf, UnpackedFloat.mul]
    rfl
  · rw [if_pos (by rw [lt_iff, hzero, hf]; rfl), hf, UnpackedFloat.mul]
    rfl

end Stagecraft.Single
