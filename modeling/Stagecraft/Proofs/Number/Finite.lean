/-
Doubles that are finite. A number that stays below `2 ^ 1023` is rounded to a finite double whatever was cut off of it, since
rounding adds at most one bit; so whole numbers of a word are finite, and so is a double over one that is at least 8. A product of
two finite doubles can only leave the doubles at the top, and is never a NaN.

- `round_below`: what is rounded has an exponent that a double can have.
- `isFinite_ofNat`, `isFinite_ofInt`: whole numbers.
- `isFinite_div`, `isFinite_mul`: quotients and products.
-/
import Mathlib.Tactic
import Stagecraft.Proofs.Number.Overflow

namespace Stagecraft.Double

open Float.Model Float.Model.UnpackedFloat

/-! ## Rounding -/

/-- zero, or a number whose exponent a double can have -/
inductive Fits (s : Sign) : UnpackedFloat → Prop
  | zero : Fits s (.zero s)
  | finite (m : Nat) (e : Int) (h : 0 < m) (he : e ≤ 971) : Fits s (.finite s m e h)

/-- rounding adds at most one to a mantissa -/
theorem roundedMantissa_le (em : ExtendedMantissa) : em.roundedMantissa ≤ em.mantissa + 1 := by
  rw [Single.roundedMantissa_eq]
  exact Nat.add_le_add_left (Bool.toNat_le _) _

/-- a mantissa shifted down and rounded is at most one bit longer than it was shifted -/
theorem log2_rounded_le (m k : Nat) (accuracy : Accuracy) :
    (ExtendedMantissa.ofMantissaAndAccuracy m accuracy >>> k).roundedMantissa.log2 ≤ m.log2 + 1 - k := by
  have hrounded := roundedMantissa_le (ExtendedMantissa.ofMantissaAndAccuracy m accuracy >>> k)
  rw [Single.shift_mantissa] at hrounded
  have hquotient : m / 2 ^ k + 1 ≤ 2 ^ (m.log2 + 1 - k) := by
    rw [Nat.succ_le_iff]
    apply Nat.div_lt_of_lt_mul
    calc m < 2 ^ (m.log2 + 1) := Nat.lt_log2_self
      _ ≤ 2 ^ (k + (m.log2 + 1 - k)) := Nat.pow_le_pow_right (by decide) (by omega)
      _ = 2 ^ k * 2 ^ (m.log2 + 1 - k) := pow_add 2 k _
  refine Nat.le_of_lt_succ (Single.log2_lt_of_lt (Nat.succ_pos _) ?_)
  exact (hrounded.trans hquotient).trans_lt (Nat.pow_lt_pow_right (by decide) (Nat.lt_succ_self _))

/-- by how many bits a number is shifted down before it is rounded -/
def excess (m : Nat) (e : Int) : Nat := (max (m.log2 + 1 + e - 53) (-1074) - e).toNat

theorem shift_eq (m : Nat) (e : Int) (accuracy : Accuracy) : shiftToTargetExponent .binary64 m e accuracy =
    (ExtendedMantissa.ofMantissaAndAccuracy m accuracy >>> excess m e, e + excess m e) := by
  have htarget : Format.targetExponent .binary64 (totalExponent m e) = max (m.log2 + 1 + e - 53) (-1074) := by
    simp only [Format.targetExponent, totalExponent, Format.mantissaBits, Format.minExponent]
    omega
  rw [shiftToTargetExponent, shiftToExponent, htarget, excess]

/-- what is below `2 ^ 1023` is rounded to a double, whatever was cut off of it -/
theorem round_below (s : Sign) {m : Nat} {e : Int} (accuracy : Accuracy) (he : e ≤ 970) (hm : m.log2 + 1 + e ≤ 1023) :
    Fits s (roundWithAccuracy .binary64 s m e accuracy) := by
  have hlog := log2_rounded_le m (excess m e) accuracy
  rw [roundWithAccuracy, shift_eq]
  simp only [shift_eq]
  split_ifs
  · exact .zero
  · refine .finite _ _ _ ?_
    unfold excess at hlog ⊢
    omega

/-- a mantissa cut down to 53 bits is full; rounded up, it may be the next power of two -/
theorem log2_rounded {m : Nat} (accuracy : Accuracy) (hm : 52 ≤ m.log2) :
    let r := (ExtendedMantissa.ofMantissaAndAccuracy m accuracy >>> (m.log2 - 52)).roundedMantissa
    52 ≤ r.log2 ∧ r.log2 ≤ 53 := by
  intro r
  have hpos : m ≠ 0 := by
    rintro rfl
    simp at hm
  have hlow : 2 ^ 52 ≤ r := by
    dsimp only [r]
    rw [Single.roundedMantissa_eq, Single.shift_mantissa]
    refine Nat.le_add_right_of_le ((Nat.le_div_iff_mul_le (Nat.two_pow_pos _)).2 ?_)
    rw [← pow_add, Nat.add_sub_cancel' hm]
    exact Nat.log2_self_le hpos
  have hhigh := log2_rounded_le m (m.log2 - 52) accuracy
  exact ⟨(Nat.le_log2 (by omega)).2 hlow, hhigh.trans (by omega)⟩

/-- a number of at least 53 bits is rounded to 53 of them, and is at most one bit longer then -/
theorem round_full (s : Sign) {m : Nat} {e : Int} (accuracy : Accuracy) (hm : 52 ≤ m.log2) (he : -1022 ≤ m.log2 + e) :
    ∃ m' e' h, roundWithAccuracy .binary64 s m e accuracy = .finite s m' e' h ∧ m'.log2 = 52 ∧
      m.log2 + e ≤ 52 + e' ∧ e' ≤ m.log2 + e - 51 := by
  obtain ⟨hlow, hhigh⟩ := log2_rounded accuracy hm
  have hexcess : excess m e = m.log2 - 52 := by
    unfold excess
    omega
  generalize hrounded : (ExtendedMantissa.ofMantissaAndAccuracy m accuracy >>> (m.log2 - 52)).roundedMantissa = r at hlow hhigh
  -- the second cut takes the bit that rounding may have added
  have hagain : excess r (e + (m.log2 - 52 : Nat)) = r.log2 - 52 := by
    unfold excess
    omega
  have hlast : (r / 2 ^ (r.log2 - 52)).log2 = 52 := by
    rw [Nat.log2_eq_log_two, Nat.log_div_base_pow, ← Nat.log2_eq_log_two]
    omega
  have hpos : r / 2 ^ (r.log2 - 52) ≠ 0 := fun hzero => by
    rw [hzero] at hlast
    simp at hlast
  refine ⟨r / 2 ^ (r.log2 - 52), e + (m.log2 - 52 : Nat) + (r.log2 - 52 : Nat), Nat.pos_of_ne_zero hpos, ?_, hlast,
    by omega, by omega⟩
  rw [roundWithAccuracy, shift_eq]
  simp only [hexcess, hrounded, shift_eq, hagain, Single.shift_mantissa]
  rw [dif_neg hpos]

/-! ## Packing -/

theorem unpack_packComponents (s : Sign) (exponent : BitVec 11) (mantissa : BitVec 52) (h : exponent ≠ -1#11) :
    (UnpackedFloat.unpack .binary64 (packComponents .binary64 s exponent mantissa)).isFinite = true := by
  simp only [UnpackedFloat.unpack, unpackMantissa_packComponents, unpackExponent_packComponents, h, if_false]
  split_ifs <;> rfl

/-- a number that is packed comes back as a number, or as an infinity if its exponent is beyond the doubles -/
theorem unpack_pack_finite (s : Sign) (m : Nat) (e : Int) (h : 0 < m) :
    (Float.Model.pack (.finite s m e h)).unpack.isFinite = true ∨
      971 < e ∧ (Float.Model.pack (.finite s m e h)).unpack = .infinity s := by
  have hbias : (e + (Format.exponentBias .binary64 : Nat) + (52 : Nat)).toNat = (e + 1075).toNat := by
    simp [Format.exponentBias]
    omega
  change (UnpackedFloat.unpack .binary64 (UnpackedFloat.pack .binary64 _)).isFinite = true ∨
    971 < e ∧ UnpackedFloat.unpack .binary64 (UnpackedFloat.pack .binary64 _) = _
  simp only [UnpackedFloat.pack]
  rw [hbias]
  by_cases hbeyond : 2 ^ 11 ≤ (e + 1075).toNat + 1
  · rw [if_pos hbeyond]
    exact .inr ⟨by omega, by cases s <;> rfl⟩
  · have hexponent : BitVec.ofNat 11 (e + 1075).toNat ≠ -1#11 := by
      intro hall
      have := congrArg BitVec.toNat hall
      rw [BitVec.toNat_ofNat, Nat.mod_eq_of_lt (by omega), show (-1#11).toNat = 2047 from rfl] at this
      omega
    rw [if_neg hbeyond]
    left
    split_ifs
    · exact unpack_packComponents s _ _ hexponent
    · exact unpack_packComponents s _ _ (by decide)

theorem isFinite_pack {s : Sign} {u : UnpackedFloat} (h : Fits s u) : (Float.Model.pack u).unpack.isFinite = true := by
  cases h with
  | zero => cases s <;> rfl
  | finite m e h he => exact (unpack_pack_finite s m e h).resolve_right fun hbeyond => by omega

/-! ## Whole numbers -/

theorem isFinite_iff (x : Float) : x.isFinite = true ↔ x.toModel.unpack.isFinite = true := Iff.rfl

/-- a double that is finite is zero, or a number of at most 53 bits in front of an exponent of at most 971 -/
theorem unpack_of_isFinite {x : Float} (hx : x.isFinite = true) :
    (∃ s, x.toModel.unpack = .zero s) ∨
      ∃ s m e h, x.toModel.unpack = .finite s m e h ∧ m.log2 ≤ 52 ∧ e ≤ 971 := by
  rw [isFinite_iff] at hx
  cases hu : x.toModel.unpack with
  | zero s => exact .inl ⟨s, rfl⟩
  | finite s m e h =>
    have hnumber := Single.unpack_finite hu
    simp only [Format.exponentBias] at hnumber
    have hlog : m.log2 < 53 := Single.log2_lt_of_lt (by decide) (by omega)
    exact .inr ⟨s, m, e, h, rfl, by omega, by omega⟩
  | infinity s =>
    rw [hu] at hx
    cases hx
  | notANumber =>
    rw [hu] at hx
    cases hx

/-- what is no infinity and no NaN fits -/
theorem fits_of_isFinite {x : Float} (hx : x.isFinite = true) : ∃ s, Fits s x.toModel.unpack := by
  rcases unpack_of_isFinite hx with ⟨s, hu⟩ | ⟨s, m, e, h, hu, -, he⟩
  · exact ⟨s, hu ▸ .zero⟩
  · exact ⟨s, hu ▸ .finite m e h he⟩

theorem isFinite_neg {x : Float} (hx : x.isFinite = true) : x.neg.isFinite = true := by
  obtain ⟨s, hfits⟩ := fits_of_isFinite hx
  change (Float.Model.pack x.toModel.unpack.neg).unpack.isFinite = true
  generalize x.toModel.unpack = u at hfits ⊢
  cases hfits with
  | zero => exact isFinite_pack .zero
  | finite m e h he => exact isFinite_pack (.finite m e h he)

/-- a whole number times a power of ten is rounded once -/
theorem ofScientific_eq {n k : Nat} (hn : 0 < n) (hk : k ≤ 2048) : UnpackedFloat.ofScientific .binary64 n k =
    roundWithAccuracy .binary64 .positive (n * 10 ^ k * 2 ^ 53) (-53) .exact := by
  have hbits : Format.binary64.exponentBits = 11 := rfl
  have hproduct : n * 10 ^ k * 2 ^ 53 = n <<< 53 * 10 ^ k := by
    rw [Nat.shiftLeft_eq]
    ring
  rw [UnpackedFloat.ofScientific, hbits, dif_neg hn.ne', if_neg (by omega), if_neg (by omega), if_pos (by omega), hproduct]
  rfl

/-- a whole number of a word is finite -/
theorem isFinite_ofNat {n : Nat} (hn : n < 2 ^ 64) : (Float.ofNat n).isFinite = true := by
  rcases Nat.eq_zero_or_pos n with rfl | hpos
  · rfl
  by_cases hsmall : n < 2 ^ 53
  · rw [isFinite_iff, ofNat_unpack hpos hsmall]
    rfl
  · -- past 53 bits the number is rounded
    have hvalue : Float.ofNat n = ⟨Float.Model.ofScientific n 0⟩ := dif_neg fun h => hsmall h.1
    rw [hvalue]
    change (Float.Model.pack (UnpackedFloat.ofScientific .binary64 n (0 : Nat))).unpack.isFinite = true
    rw [ofScientific_eq hpos (Nat.zero_le _)]
    refine isFinite_pack (round_below .positive .exact (by decide) ?_)
    have hlog : n.log2 < 64 := Single.log2_lt_of_lt (by decide) hn
    rw [pow_zero, Nat.mul_one, log2_mul_two_pow hpos.ne']
    omega

theorem isFinite_ofInt {n : Int} (hlow : -2 ^ 64 < n) (hhigh : n < 2 ^ 64) : (Float.ofInt n).isFinite = true := by
  cases n with
  | ofNat n => exact isFinite_ofNat (by simpa using Int.ofNat_lt.1 hhigh)
  | negSucc n => exact isFinite_neg (isFinite_ofNat (by omega))

/-! ## Quotients and products -/

/-- the quotient of two mantissas is as long as they differ in length, or one bit shorter -/
theorem log2_quotient_le {m n k : Nat} (hn : 0 < n) : (m <<< k / n).log2 ≤ m.log2 + k - n.log2 := by
  refine Nat.le_of_lt_succ (Single.log2_lt_of_lt (Nat.succ_pos _) (Nat.div_lt_of_lt_mul ?_))
  calc m <<< k = m * 2 ^ k := Nat.shiftLeft_eq m k
    _ < 2 ^ (m.log2 + 1) * 2 ^ k := Nat.mul_lt_mul_of_pos_right Nat.lt_log2_self (Nat.two_pow_pos k)
    _ = 2 ^ (m.log2 + 1 + k) := (pow_add 2 _ _).symm
    _ ≤ 2 ^ (n.log2 + (m.log2 + k - n.log2 + 1)) := Nat.pow_le_pow_right (by decide) (by omega)
    _ = 2 ^ n.log2 * 2 ^ (m.log2 + k - n.log2 + 1) := pow_add 2 _ _
    _ ≤ n * 2 ^ (m.log2 + k - n.log2 + 1) := Nat.mul_le_mul_right _ (Nat.log2_self_le hn.ne')

/-- whether the magnitude of a double is a number of at least 8 -/
def isLarge (x : Float) : Bool :=
  match x.toModel.unpack with
  | .finite _ m e _ => 3 ≤ m.log2 + e
  | _ => false

theorem unpack_of_isLarge {x : Float} (hx : isLarge x = true) :
    ∃ s m e h, x.toModel.unpack = .finite s m e h ∧ 3 ≤ m.log2 + e := by
  unfold isLarge at hx
  split at hx
  · exact ⟨_, _, _, _, ‹_›, of_decide_eq_true hx⟩
  · cases hx

theorem isFinite_of_isLarge {x : Float} (hx : isLarge x = true) : x.isFinite = true := by
  obtain ⟨s, m, e, h, hu, -⟩ := unpack_of_isLarge hx
  rw [isFinite_iff, hu]
  rfl

/-- a number of at least 53 bits is large when it is rounded, up to the last double -/
theorem isLarge_pack (s : Sign) {m : Nat} {e : Int} (accuracy : Accuracy) (hm : 52 ≤ m.log2) (hlow : 3 ≤ m.log2 + e)
    (hhigh : m.log2 + e ≤ 1022) : isLarge ⟨.pack (roundWithAccuracy .binary64 s m e accuracy)⟩ = true := by
  have hnormal : -1022 ≤ m.log2 + e := by omega
  obtain ⟨m', e', h, hround, hlog, hlow', hhigh'⟩ := round_full s accuracy hm hnormal
  rw [hround]
  unfold isLarge
  dsimp only
  rw [unpack_pack s m' e' h hlog (by omega) (by omega)]
  exact decide_eq_true (by omega)

/-- a double over a large one -/
theorem isFinite_div {x y : Float} (hx : x.isFinite = true) (hy : isLarge y = true) : (x / y).isFinite = true := by
  obtain ⟨s, m, e, h, hv, hlarge⟩ := unpack_of_isLarge hy
  change (Float.Model.pack (UnpackedFloat.div .binary64 x.toModel.unpack y.toModel.unpack)).unpack.isFinite = true
  rw [hv]
  rcases unpack_of_isFinite hx with ⟨s', hu⟩ | ⟨s', m', e', h', hu, hlog, he⟩
  · rw [hu]
    exact isFinite_pack .zero
  · rw [hu]
    refine isFinite_pack (round_below _ _ ?_ ?_)
    all_goals
      have hquotient := log2_quotient_le (m := m')
        (k := (e' - e - min (e' - e) (Format.targetExponent .binary64 (totalExponent m' e' - totalExponent m e))).toNat) h
      simp only [Format.targetExponent, totalExponent, Format.mantissaBits, Format.minExponent] at hquotient ⊢
      omega

/-- a product that is no infinity -/
theorem isFinite_mul {x y : Float} (hx : x.isFinite = true) (hy : y.isFinite = true) (hxy : (x * y).isInf = false) :
    (x * y).isFinite = true := by
  obtain ⟨s, hfits⟩ := fits_of_isFinite hx
  obtain ⟨s', hfits'⟩ := fits_of_isFinite hy
  change (Float.Model.pack (UnpackedFloat.mul .binary64 x.toModel.unpack y.toModel.unpack)).unpack.isInf = false at hxy
  change (Float.Model.pack (UnpackedFloat.mul .binary64 x.toModel.unpack y.toModel.unpack)).unpack.isFinite = true
  generalize x.toModel.unpack = u at hfits hxy ⊢
  generalize y.toModel.unpack = v at hfits' hxy ⊢
  cases hfits with
  | zero =>
    cases hfits' with
    | zero => exact isFinite_pack .zero
    | finite => exact isFinite_pack .zero
  | finite m e h he =>
    cases hfits' with
    | zero => exact isFinite_pack .zero
    | finite m' e' h' he' =>
      simp only [UnpackedFloat.mul, roundWithAccuracy] at hxy ⊢
      split_ifs at hxy ⊢
      · exact isFinite_pack .zero
      · refine (unpack_pack_finite _ _ _ _).resolve_right fun hbeyond => ?_
        rw [hbeyond.2] at hxy
        cases hxy

end Stagecraft.Double
