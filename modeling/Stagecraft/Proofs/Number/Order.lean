/-
Doubles in order. Two doubles that are no NaN compare one way or the other, and a NaN compares with nothing. No comparison tells
the two zeros apart; and a zero that is added to a double leaves it as it was, or leaves the other zero.

- `unpack_pack_unpack`: what was unpacked is packed and unpacked as it was.
- `compare_swap`, `compare_eq_none_iff`: the other order, and no order.
- `isNaN_of_le`, `le_of_not_lt`: what compares, and how.
- `Alike`: equal or both zero, which is all that a comparison sees.
-/
import Mathlib.Tactic
import Stagecraft.Number.Scalar
import Stagecraft.Proofs.Number.Overflow

namespace Stagecraft.Double

open Float.Model Float.Model.UnpackedFloat

/-! ## Packing again -/

/-- a mantissa that is not full, with the least exponent, is unpacked as it was packed -/
theorem unpack_pack_small (s : Sign) (m : Nat) (h : 0 < m) (hm : m < 2 ^ 52) :
    (Float.Model.pack (.finite s m (-1074) h)).unpack = .finite s m (-1074) h := by
  have hlog : m.log2 + 1 ≠ Format.mantissaBits .binary64 := by
    have hlt := Single.log2_lt_of_lt (by decide) hm
    simp only [Format.mantissaBits]
    omega
  have hmantissa : BitVec.ofNat 52 m ≠ 0#52 := by
    intro hzero
    have := congrArg BitVec.toNat hzero
    rw [BitVec.toNat_ofNat, Nat.mod_eq_of_lt hm] at this
    exact h.ne' this
  have hpacked : UnpackedFloat.pack .binary64 (.finite s m (-1074) h) =
      packComponents .binary64 s 0#11 (BitVec.ofNat 52 m) := by
    simp only [UnpackedFloat.pack]
    rw [if_neg (by decide), if_neg hlog]
  unfold Float.Model.unpack Float.Model.pack
  simp only [hpacked, UnpackedFloat.unpack, unpackMantissa_packComponents, unpackExponent_packComponents,
    unpackSign_packComponents]
  rw [if_neg (by decide), if_pos trivial, dif_neg hmantissa]
  congr 1
  · cases s <;> rfl
  · rw [BitVec.toNat_ofNat, Nat.mod_eq_of_lt hm]

/-- a double is a full mantissa with an exponent in bounds, or a smaller mantissa with the least exponent -/
theorem unpack_bounds {x : Float} {s : Sign} {m : Nat} {e : Int} {h : 0 < m} (hx : x.toModel.unpack = .finite s m e h) :
    m.log2 = 52 ∧ -1074 ≤ e ∧ e ≤ 971 ∨ m < 2 ^ 52 ∧ e = -1074 := by
  have hnumber := Single.unpack_finite hx
  have hleast : -1074 ≤ e := by
    unfold Float.Model.unpack at hx
    simp only [UnpackedFloat.unpack] at hx
    split_ifs at hx with hall hnan hnone hzero
    · obtain ⟨-, -, rfl⟩ := UnpackedFloat.finite.inj hx
      simp [Format.exponentBias]
      omega
    · -- an exponent that is not all zeros
      have hsome : (@unpackExponent .binary64 x.toModel.toBits.toBitVec).toNat ≠ 0 := fun hzero =>
        hnone (BitVec.eq_of_toNat_eq hzero)
      obtain ⟨-, -, rfl⟩ := UnpackedFloat.finite.inj hx
      simp [Format.exponentBias]
      omega
  simp only [Format.exponentBias] at hnumber
  rw [Nat.log2_eq_iff h.ne']
  omega

/-- what was unpacked is packed and unpacked as it was -/
theorem unpack_pack_unpack (x : Float) : (Float.Model.pack x.toModel.unpack).unpack = x.toModel.unpack := by
  cases hx : x.toModel.unpack with
  | notANumber => rfl
  | infinity s => cases s <;> rfl
  | zero s => cases s <;> rfl
  | finite s m e h =>
    rcases unpack_bounds hx with ⟨hm, hlow, hhigh⟩ | ⟨hm, rfl⟩
    · exact unpack_pack s m e h hm hlow hhigh
    · exact unpack_pack_small s m h hm

/-! ## Comparing -/

theorem le_iff (x y : Float) : x ≤ y ↔ (x.toModel.unpack.compare y.toModel.unpack).any (·.isLE) = true := decide_eq_true_iff

theorem lt_iff (x y : Float) : x < y ↔ x.toModel.unpack.compare y.toModel.unpack = some .lt :=
  (Single.lt_double_iff x y).trans beq_iff_eq

theorem isNaN_iff (x : Float) : x.isNaN = true ↔ x.toModel.unpack = .notANumber := by
  have hnan : x.isNaN = x.toModel.unpack.isNaN := rfl
  rw [hnan]
  cases x.toModel.unpack <;> simp [UnpackedFloat.isNaN]

theorem isZero_iff (x : Float) : Scalar.isZero x = true ↔ ∃ s, x.toModel.unpack = .zero s := by
  have hbeq : Scalar.isZero x = (x.toModel.unpack.compare (.zero .positive) == some .eq) := rfl
  rw [hbeq, beq_iff_eq]
  rcases x.toModel.unpack with (_ | _) | _ | _ | ⟨_ | _, m, e, h⟩ <;> simp [UnpackedFloat.compare]

/-- comparing in the other order -/
theorem compare_swap (u v : UnpackedFloat) : v.compare u = (u.compare v).map Ordering.swap := by
  have hsign : ∀ s s' : Sign, compare s' s = (compare s s').swap := by decide
  have hnumber : ∀ (m m' : ℕ) (e e' : ℤ), (compare e' e).then (compare m' m) = ((compare e e').then (compare m m')).swap := by
    intro m m' e e'
    rw [Ordering.swap_then, ← Std.OrientedOrd.eq_swap, ← Std.OrientedOrd.eq_swap]
  -- numbers of one sign compare by what is packed of them, all else by signs and constructors alone
  rcases u with s | _ | s | ⟨_ | _, m, e, h⟩ <;> rcases v with s' | _ | s' | ⟨_ | _, m', e', h'⟩
  case infinity.infinity => exact congrArg some (hsign s s')
  case finite.negative.finite.negative => exact congrArg (fun o => some (Ordering.swap o)) (hnumber m m' e e')
  case finite.positive.finite.positive => exact congrArg some (hnumber m m' e e')
  all_goals first | rfl | (cases s <;> rfl) | (cases s' <;> rfl)

/-- only a NaN does not compare -/
theorem compare_eq_none_iff (u v : UnpackedFloat) : u.compare v = none ↔ u = .notANumber ∨ v = .notANumber := by
  rcases u with (_ | _) | _ | _ | ⟨_ | _, m, e, h⟩ <;> rcases v with (_ | _) | _ | _ | ⟨_ | _, m', e', h'⟩ <;>
    simp [UnpackedFloat.compare]

variable {x y z : Float}

/-- what compares is no NaN -/
theorem isNaN_of_compare {o : Ordering} (h : x.toModel.unpack.compare y.toModel.unpack = some o) :
    x.isNaN = false ∧ y.isNaN = false := by
  have hsome : ¬(x.toModel.unpack = .notANumber ∨ y.toModel.unpack = .notANumber) := by
    rw [← compare_eq_none_iff, h]
    exact Option.some_ne_none o
  rw [← isNaN_iff, ← isNaN_iff] at hsome
  simpa using hsome

theorem isNaN_of_lt (h : x < y) : x.isNaN = false ∧ y.isNaN = false := isNaN_of_compare ((lt_iff x y).1 h)

theorem isNaN_of_le (h : x ≤ y) : x.isNaN = false ∧ y.isNaN = false := by
  rw [le_iff, Option.any_eq_true] at h
  obtain ⟨o, ho, -⟩ := h
  exact isNaN_of_compare ho

/-- of two doubles that are no NaN, the first is below the second if the second is not below the first -/
theorem le_of_not_lt (hx : x.isNaN = false) (hy : y.isNaN = false) (h : ¬y < x) : x ≤ y := by
  have hsome : x.toModel.unpack.compare y.toModel.unpack ≠ none := by
    rw [Ne, compare_eq_none_iff, ← isNaN_iff, ← isNaN_iff, hx, hy]
    decide
  obtain ⟨o, ho⟩ := Option.ne_none_iff_exists'.1 hsome
  rw [lt_iff, compare_swap, ho] at h
  rw [le_iff, ho]
  cases o with
  | lt => rfl
  | eq => rfl
  | gt => exact absurd rfl h

theorem le_refl (hx : x.isNaN = false) : x ≤ x := by
  apply le_of_not_lt hx hx
  intro hlt
  have hswap := compare_swap x.toModel.unpack x.toModel.unpack
  rw [lt_iff] at hlt
  rw [hlt] at hswap
  cases hswap

/-! ## What comparisons see -/

/-- equal, or both zero -/
def Alike (x y : Float) : Prop := x.toModel.unpack = y.toModel.unpack ∨ Scalar.isZero x = true ∧ Scalar.isZero y = true

namespace Alike

theorem refl (x : Float) : Alike x x := .inl rfl

theorem trans (hxy : Alike x y) (hyz : Alike y z) : Alike x z := by
  rcases hxy with hxy | ⟨hx, hy⟩
  · rcases hyz with hyz | ⟨hy, hz⟩
    · exact .inl (hxy.trans hyz)
    · refine .inr ⟨?_, hz⟩
      rw [isZero_iff] at hy ⊢
      rwa [hxy]
  · refine .inr ⟨hx, ?_⟩
    rcases hyz with hyz | ⟨-, hz⟩
    · rw [isZero_iff] at hy ⊢
      rwa [← hyz]
    · exact hz

/-- they compare with all else in the same way -/
theorem compare_eq (h : Alike x y) (u : UnpackedFloat) : x.toModel.unpack.compare u = y.toModel.unpack.compare u := by
  rcases h with hsame | ⟨hx, hy⟩
  · rw [hsame]
  · obtain ⟨s, hs⟩ := (isZero_iff x).1 hx
    obtain ⟨s', hs'⟩ := (isZero_iff y).1 hy
    rw [hs, hs']
    rcases u with (_ | _) | _ | _ | ⟨_ | _, m, e, h⟩ <;> rfl

theorem le_iff (h : Alike x y) (w : Float) : x ≤ w ↔ y ≤ w := by
  rw [Double.le_iff, Double.le_iff, h.compare_eq]

theorem ge_iff (h : Alike x y) (w : Float) : w ≤ x ↔ w ≤ y := by
  rw [Double.le_iff, Double.le_iff, compare_swap x.toModel.unpack, compare_swap y.toModel.unpack, h.compare_eq]

theorem lt_iff (h : Alike x y) (w : Float) : x < w ↔ y < w := by
  rw [Double.lt_iff, Double.lt_iff, h.compare_eq]

theorem gt_iff (h : Alike x y) (w : Float) : w < x ↔ w < y := by
  rw [Double.lt_iff, Double.lt_iff, compare_swap x.toModel.unpack, compare_swap y.toModel.unpack, h.compare_eq]

end Alike

/-- the double of a number that some double was unpacked to, or of a zero for a zero -/
theorem alike_of_pack {u : UnpackedFloat} (hx : x.toModel.unpack = (Float.Model.pack u).unpack)
    (hu : u = y.toModel.unpack ∨ (∃ s, u = .zero s) ∧ ∃ s, y.toModel.unpack = .zero s) : Alike x y := by
  rcases hu with rfl | ⟨⟨s, rfl⟩, hy⟩
  · exact .inl (hx.trans (unpack_pack_unpack y))
  · refine .inr ⟨(isZero_iff x).2 ⟨s, ?_⟩, (isZero_iff y).2 hy⟩
    rw [hx]
    cases s <;> rfl

/-- a zero added on the left -/
theorem zero_add_alike (hz : Scalar.isZero z = true) (x : Float) : Alike (z + x) x := by
  obtain ⟨s, hs⟩ := (isZero_iff z).1 hz
  have hsum : (z + x).toModel.unpack = (Float.Model.pack (UnpackedFloat.add .binary64 (.zero s) x.toModel.unpack)).unpack := by
    rw [← hs]
    rfl
  apply alike_of_pack hsum
  cases x.toModel.unpack with
  | zero s' => exact .inr ⟨by cases s <;> cases s' <;> exact ⟨_, rfl⟩, s', rfl⟩
  | _ => exact .inl rfl

/-- a zero added on the right -/
theorem add_zero_alike (hz : Scalar.isZero z = true) (x : Float) : Alike (x + z) x := by
  obtain ⟨s, hs⟩ := (isZero_iff z).1 hz
  have hsum : (x + z).toModel.unpack = (Float.Model.pack (UnpackedFloat.add .binary64 x.toModel.unpack (.zero s))).unpack := by
    rw [← hs]
    rfl
  apply alike_of_pack hsum
  cases x.toModel.unpack with
  | zero s' => exact .inr ⟨by cases s <;> cases s' <;> exact ⟨_, rfl⟩, s', rfl⟩
  | _ => exact .inl rfl

end Stagecraft.Double
