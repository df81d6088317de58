import Equilibrium.Proofs.Scalar.Spacing

/-!
What doubles make of infinities and undefined values.

Packing makes an infinity of a magnitude that is too large, but nothing undefined of what was
defined. So whether a double is undefined is decided before it is packed, where it is a matter of
cases: a sum of numbers that are not below zero never has infinities of both signs, a square has two
factors of one sign, and neither a root nor a quotient loses what it is taken of.
-/

namespace Equilibrium

open Float.Model Float.Model.UnpackedFloat

namespace Unpacked

/-! ### Packing and rounding -/

theorem isNaN_unpack_packComponents {s : Sign} {e : BitVec 11} {m : BitVec 52} (h : e ≠ -1#11) :
    (UnpackedFloat.unpack Format.binary64
      (packComponents Format.binary64 s e m)).isNaN = false := by
  unfold UnpackedFloat.unpack
  dsimp only
  rw [unpackExponent_packComponents, if_neg h]
  by_cases hzero : e = 0#11
  · rw [if_pos hzero]
    exact diteInduction (motive := (UnpackedFloat.isNaN · = false)) (fun _ => rfl) fun _ => rfl
  · rw [if_neg hzero]
    rfl

/-- Nothing becomes undefined by being packed. -/
theorem isNaN_unpack_pack (f : UnpackedFloat) : (Float.Model.pack f).unpack.isNaN = f.isNaN := by
  cases f with
  | notANumber => rfl
  | infinity s => cases s <;> rfl
  | zero s => cases s <;> rfl
  | finite s m e hm =>
      change (UnpackedFloat.unpack Format.binary64
        (UnpackedFloat.pack Format.binary64 _)).isNaN = false
      have hbias : (Format.binary64.exponentBias : Int) = 1023 := by decide
      unfold UnpackedFloat.pack
      simp only [hbias]
      split
      · cases s <;> rfl
      · split
        · -- Below the exponent of an infinity there is none of an undefined value.
          refine isNaN_unpack_packComponents ?_
          rw [ne_eq, ← BitVec.toNat_inj, BitVec.toNat_ofNat, Nat.mod_eq_of_lt (by omega)]
          simp
          omega
        · exact isNaN_unpack_packComponents (by decide)

theorem isNaN_roundWithAccuracy (spec : Format) (s : Sign) (m : Nat) (e : Int) (a : Accuracy) :
    (roundWithAccuracy spec s m e a).isNaN = false := by
  unfold roundWithAccuracy
  exact diteInduction (motive := (UnpackedFloat.isNaN · = false)) (fun _ => rfl) fun _ => rfl

theorem isNaN_normalize (spec : Format) (n e : Int) (z : Sign) :
    (UnpackedFloat.normalize spec n e z).isNaN = false := by
  unfold UnpackedFloat.normalize
  split
  · exact isNaN_roundWithAccuracy ..
  · rfl
  · exact isNaN_roundWithAccuracy ..

/-! ### Operations -/

variable {f g : UnpackedFloat} (spec : Format)

theorem isNaN_add (hf : NotNegative f) (hg : NotNegative g) :
    (UnpackedFloat.add spec f g).isNaN = (f.isNaN || g.isNaN) := by
  cases f with
  | notANumber => cases g <;> rfl
  | infinity s =>
      obtain rfl : s = .positive := hf
      cases g with
      | infinity t =>
          obtain rfl : t = .positive := hg
          rfl
      | _ => rfl
  | zero s =>
      cases g with
      | zero t => cases s <;> cases t <;> rfl
      | _ => rfl
  | finite s m e hm =>
      cases g with
      | finite t m' e' hm' => exact isNaN_normalize ..
      | _ => rfl

theorem notNegative_add (hf : NotNegative f) (hg : NotNegative g) :
    NotNegative (UnpackedFloat.add spec f g) := by
  cases f with
  | notANumber => cases g <;> trivial
  | infinity s =>
      obtain rfl : s = .positive := hf
      cases g with
      | infinity t =>
          obtain rfl : t = .positive := hg
          rfl
      | notANumber => trivial
      | zero t => rfl
      | finite t m e hm => rfl
  | zero s =>
      cases g with
      | zero t => cases s <;> cases t <;> trivial
      | notANumber => trivial
      | infinity t => exact hg
      | finite t m e hm => exact hg
  | finite s m e hm =>
      cases g with
      | notANumber => trivial
      | infinity t => exact hg
      | zero t => exact hf
      | finite t m' e' hm' =>
          obtain rfl : s = .positive := hf
          obtain rfl : t = .positive := hg
          exact (signPositive_normalize ..).notNegative

theorem isNaN_mul_self (f : UnpackedFloat) : (UnpackedFloat.mul spec f f).isNaN = f.isNaN := by
  cases f with
  | finite s m e hm => exact isNaN_roundWithAccuracy ..
  | _ => rfl

theorem notNegative_mul_self (f : UnpackedFloat) : NotNegative (UnpackedFloat.mul spec f f) := by
  cases f with
  | notANumber => trivial
  | infinity s => cases s <;> rfl
  | zero s => trivial
  | finite s m e hm => cases s <;> exact (signPositive_roundWithAccuracy ..).notNegative

theorem isNaN_sqrt (hf : NotNegative f) : (UnpackedFloat.sqrt spec f).isNaN = f.isNaN := by
  cases f with
  | notANumber => rfl
  | infinity s =>
      obtain rfl : s = .positive := hf
      rfl
  | zero s => rfl
  | finite s m e hm =>
      obtain rfl : s = .positive := hf
      exact isNaN_roundWithAccuracy ..

theorem isNaN_div_finite {s : Sign} {m : Nat} {e : Int} {hm : 0 < m} :
    (UnpackedFloat.div spec f (.finite s m e hm)).isNaN = f.isNaN := by
  cases f with
  | finite t m' e' hm' => exact isNaN_roundWithAccuracy ..
  | _ => rfl

theorem infinity_add (hdefined : f.isNaN = false) (hf : NotNegative f) :
    UnpackedFloat.add spec (.infinity .positive) f = .infinity .positive := by
  cases f with
  | notANumber => cases hdefined
  | infinity s =>
      obtain rfl : s = .positive := hf
      rfl
  | zero s => rfl
  | finite s m e hm => rfl

theorem add_infinity (hdefined : f.isNaN = false) (hf : NotNegative f) :
    UnpackedFloat.add spec f (.infinity .positive) = .infinity .positive := by
  cases f with
  | notANumber => cases hdefined
  | infinity s =>
      obtain rfl : s = .positive := hf
      rfl
  | zero s => rfl
  | finite s m e hm => rfl

theorem mul_self_of_isInf (h : f.isInf = true) :
    UnpackedFloat.mul spec f f = .infinity .positive := by
  cases f with
  | infinity s => cases s <;> rfl
  | notANumber => cases h
  | zero s => cases h
  | finite s m e hm => cases h

/-! ### Magnitudes that are not too large -/

/-- An unpacked number is neither infinite nor undefined, and its exponent does not exceed a
bound. -/
def Within (k : Int) : UnpackedFloat → Prop
  | .finite _ _ e _ => e ≤ k
  | .zero _ => True
  | _ => False

variable {k : Int}

theorem within_unpack_packComponents {s : Sign} {e : BitVec 11} {m : BitVec 52} (hones : e ≠ -1#11)
    (he : (e.toNat : Int) ≤ k + 1075) (hlow : -1074 ≤ k) :
    Within k (UnpackedFloat.unpack Format.binary64 (packComponents Format.binary64 s e m)) := by
  have hbias : (Format.binary64.exponentBias : Int) = 1023 := by decide
  unfold UnpackedFloat.unpack
  dsimp only
  rw [unpackExponent_packComponents, if_neg hones]
  by_cases hzero : e = 0#11
  · rw [if_pos hzero]
    refine diteInduction (fun _ => trivial) fun _ => ?_
    change (e.toNat - (Format.binary64.exponentBias + 52) + 1 : Int) ≤ k
    have : e.toNat = 0 := congrArg BitVec.toNat hzero
    omega
  · rw [if_neg hzero]
    change (e.toNat - (Format.binary64.exponentBias + 52) : Int) ≤ k
    omega

/-- Up to the largest exponent of a double nothing becomes infinite by being packed. -/
theorem within_unpack_pack (h : Within k f) (hlow : -1074 ≤ k) (hhigh : k ≤ 971) :
    Within k (Float.Model.pack f).unpack := by
  cases f with
  | notANumber => exact h.elim
  | infinity s => exact h.elim
  | zero s => cases s <;> trivial
  | finite s m e hm =>
      have he : e ≤ k := h
      change Within k (UnpackedFloat.unpack Format.binary64 (UnpackedFloat.pack Format.binary64 _))
      have hbias : (Format.binary64.exponentBias : Int) = 1023 := by decide
      unfold UnpackedFloat.pack
      simp only [hbias]
      split
      · next hlarge =>
        simp at hlarge
        omega
      · split
        · refine within_unpack_packComponents ?_ ?_ hlow
          · rw [ne_eq, ← BitVec.toNat_inj, BitVec.toNat_ofNat, Nat.mod_eq_of_lt (by omega)]
            simp
            omega
          · rw [BitVec.toNat_ofNat, Nat.mod_eq_of_lt (by omega)]
            simp
            omega
        · exact within_unpack_packComponents (by decide) (by simp; omega) hlow

theorem exponent_shiftToTargetExponent (m : Nat) (e : Int) (a : Accuracy) :
    (shiftToTargetExponent Format.binary64 m e a).2 = max e (max (m.log2 + e - 52) (-1074)) := by
  simp only [shiftToTargetExponent, shiftToExponent, targetExponent_eq]
  omega

theorem roundedMantissa_le (em : ExtendedMantissa) : em.roundedMantissa ≤ em.mantissa + 1 := by
  obtain ⟨m, r, s⟩ := em
  cases r <;> cases s <;>
    simp [ExtendedMantissa.roundedMantissa, ExtendedMantissa.accuracy, Accuracy.roundToNearestEven]
  omega

/-- Rounding raises the exponent of a magnitude by one at most, when it carries into one more
digit. -/
theorem within_roundWithAccuracy {s : Sign} {m : Nat} {e : Int} (a : Accuracy) (hm : 0 < m)
    (hlow : -1074 ≤ m.log2 + e) (he : e ≤ k) (hdigits : m.log2 + e ≤ k + 52) (hk : -1074 ≤ k) :
    Within (k + 1) (roundWithAccuracy Format.binary64 s m e a) := by
  unfold roundWithAccuracy
  obtain ⟨hpos, hlt, -⟩ := shiftToTargetExponent_bounds a hm hlow
  have hexponent := exponent_shiftToTargetExponent m e a
  generalize shiftToTargetExponent Format.binary64 m e a = first at hpos hlt hexponent ⊢
  have hrounded : first.1.roundedMantissa < 2 ^ 54 :=
    ((roundedMantissa_le first.1).trans hlt).trans_lt (by decide)
  have hlog : first.1.roundedMantissa.log2 < 54 :=
    (Nat.log2_lt (hpos.trans_le (le_roundedMantissa first.1)).ne').2 hrounded
  refine diteInduction (fun _ => trivial) fun _ => ?_
  change (shiftToTargetExponent Format.binary64 first.1.roundedMantissa first.2 .exact).2 ≤ k + 1
  rw [exponent_shiftToTargetExponent]
  omega

theorem log2_mul_two_pow {m : Nat} (hm : 0 < m) (s : Nat) : (m * 2 ^ s).log2 = m.log2 + s := by
  induction s with
  | zero => simp
  | succ s ih =>
      have hpos : m * 2 ^ s ≠ 0 := (Nat.mul_pos hm (Nat.two_pow_pos s)).ne'
      rw [pow_succ, ← mul_assoc, mul_comm, Nat.log2_two_mul hpos, ih, add_assoc]

theorem within_normalize {n : Nat} (z : Sign) (hn : 0 < n) (hk : 0 ≤ k) (hlog : n.log2 ≤ k + 52) :
    Within (k + 1) (UnpackedFloat.normalize Format.binary64 n 0 z) := by
  have hcompare : compare (n : Int) 0 = .gt := Int.compare_eq_gt.2 (by omega)
  simp only [UnpackedFloat.normalize, hcompare, UnpackedFloat.round, decreaseExponent,
    targetExponent_eq, Int.toNat_natCast, Nat.shiftLeft_eq]
  generalize (0 - max ((n.log2 : Int) + 0 - 52) (-1074)).toNat = s
  have hdigits := log2_mul_two_pow hn s
  refine within_roundWithAccuracy .exact (Nat.mul_pos hn (Nat.two_pow_pos s)) ?_ ?_ ?_ ?_ <;> omega

theorem within_mul_one (hf : Within k f) (hk : -1074 ≤ k)
    (hfinite : ∀ s m e hm, f = .finite s m e hm → Canonical m e) :
    Within (k + 1) (UnpackedFloat.mul Format.binary64 f (1.0 : Float).toModel.unpack) := by
  have hone : (1.0 : Float).toModel.unpack = .finite .positive (2 ^ 52) (-52) (by decide) := rfl
  rw [hone]
  cases f with
  | notANumber => exact hf.elim
  | infinity s => exact hf.elim
  | zero s => trivial
  | finite s m e hm =>
      have he : e ≤ k := hf
      obtain ⟨hlt, hlow, -⟩ := hfinite s m e hm rfl
      have hlog : m.log2 < 53 := (Nat.log2_lt hm.ne').2 hlt
      have hdigits := log2_mul_two_pow hm 52
      refine within_roundWithAccuracy .exact (Nat.mul_pos hm (by decide)) ?_ ?_ ?_ hk <;> omega

theorem within_ofScientific {n : Nat} (hn : 0 < n) (hk : 0 ≤ k) (hlog : n.log2 ≤ k + 52) :
    Within (k + 1) (UnpackedFloat.ofScientific Format.binary64 n 0) := by
  have hbits : Format.binary64.mantissaBits = 53 := by decide
  have hlow : ¬ (0 : Int) < -((2 ^ Format.binary64.exponentBits : Int) + n.log2) := by
    have : (0 : Int) < 2 ^ Format.binary64.exponentBits := by decide
    omega
  rw [UnpackedFloat.ofScientific, dif_neg hn.ne', if_neg (by decide), if_neg hlow, if_pos le_rfl,
    mul_positive, hbits, Nat.shiftLeft_eq, Int.toNat_zero, pow_zero, mul_one]
  have hdigits := log2_mul_two_pow hn 53
  refine within_roundWithAccuracy .exact (Nat.mul_pos hn (by decide)) ?_ ?_ ?_ ?_ <;> omega

end Unpacked

/-! ### Doubles -/

open Unpacked

theorem Float.zero_le_iff (x : Float) :
    0 ≤ x ↔ x.isNaN = false ∧ NotNegative x.toModel.unpack := by
  constructor
  · intro h
    obtain ⟨-, hdefined, -⟩ := le_iff_rank.1 ((Float.le_iff 0 x).1 h)
    exact ⟨hdefined, (Float.notNegative_iff x).2 (.inr h)⟩
  · rintro ⟨hdefined, h⟩
    exact ((Float.notNegative_iff x).1 h).resolve_left (Bool.eq_false_iff.1 hdefined)

/-- A defined number that is not below zero is not below zero when it is packed. -/
theorem Float.zero_le_ofModel {f : UnpackedFloat} (hdefined : f.isNaN = false)
    (hf : NotNegative f) : 0 ≤ Float.ofModel (Float.Model.pack f) :=
  (Float.zero_le_iff _).2 ⟨(isNaN_unpack_pack f).trans hdefined, notNegative_unpack_pack hf⟩

/-- A whole number above zero that is not too large for a double is unpacked to a number above
zero. -/
theorem Float.unpack_ofNat {n : Nat} (hn : 0 < n)
    (hfinite : Scalar.isFinite (Scalar.ofNat n : Float) = true) :
    ∃ m e hm, (Float.ofNat n).toModel.unpack = .finite .positive m e hm := by
  have habove : Above (Float.ofNat n).toModel.unpack :=
    (Float.zero_lt_iff _).1 (Float.zero_lt_ofNat hn)
  have hreal : IsReal (Float.ofNat n).toModel.unpack := isReal_unpack hfinite
  cases hunpack : (Float.ofNat n).toModel.unpack with
  | finite s m e hm =>
      rw [hunpack] at habove
      obtain rfl : s = .positive := habove
      exact ⟨m, e, hm, rfl⟩
  | zero s =>
      rw [hunpack] at habove
      exact habove.elim
  | infinity s =>
      rw [hunpack] at hreal
      exact hreal.elim
  | notANumber =>
      rw [hunpack] at hreal
      exact hreal.elim

theorem Float.isFinite_of_within {x : Float} {k : Int} (h : Within k x.toModel.unpack) :
    Scalar.isFinite x = true := by
  change (!x.toModel.unpack.isNaN && !x.toModel.unpack.isInf) = true
  cases hx : x.toModel.unpack with
  | notANumber =>
      rw [hx] at h
      exact h.elim
  | infinity s =>
      rw [hx] at h
      exact h.elim
  | zero s => rfl
  | finite s m e hm => rfl

/-- A whole number that fits a machine word is not too large for a double. -/
theorem Float.isFinite_ofNat {n : Nat} (hword : n < 2 ^ 64) :
    Scalar.isFinite (Scalar.ofNat n : Float) = true := by
  obtain rfl | hn := n.eq_zero_or_pos
  · decide
  have hlog : n.log2 < 64 := (Nat.log2_lt hn.ne').2 hword
  change Scalar.isFinite (Float.ofNat n) = true
  unfold Float.ofNat OfScientific.ofScientific instOfScientificFloat Float.ofScientific
  simp only
  split
  · -- A number with at most the digits of a double is converted and multiplied by one.
    next hexact =>
    have hconvert : n.toUInt64.toNat = n := by
      simp
      omega
    have hconverted : Within 13 (Float.Model.pack
        (UnpackedFloat.normalize Format.binary64 n.toUInt64.toNat 0 .positive)).unpack := by
      rw [hconvert]
      exact within_unpack_pack (within_normalize (k := 12) .positive hn (by omega) (by omega))
        (by omega) (by omega)
    have hproduct := within_mul_one hconverted (by omega) fun _ _ _ _ => canonical_unpack
    exact Float.isFinite_of_within (within_unpack_pack hproduct (by omega) (by omega))
  · have hrounded := within_ofScientific (k := 12) hn (by omega) (by omega)
    exact Float.isFinite_of_within (within_unpack_pack hrounded (by omega) (by omega))

instance : Scalar.Special Float where
  isNaN_add hx hy :=
    (isNaN_unpack_pack _).trans
      (isNaN_add _ ((Float.notNegative_iff _).2 hx) ((Float.notNegative_iff _).2 hy))
  add_nonneg {x y} hx hy := by
    obtain ⟨hdefined, hx⟩ := (Float.zero_le_iff x).1 hx
    obtain ⟨hdefined', hy⟩ := (Float.zero_le_iff y).1 hy
    refine Float.zero_le_ofModel ?_ (notNegative_add _ hx hy)
    exact (isNaN_add _ hx hy).trans (Bool.or_eq_false_iff.2 ⟨hdefined, hdefined'⟩)
  infinity_add {x} hx := by
    obtain ⟨hdefined, hx⟩ := (Float.zero_le_iff x).1 hx
    exact congrArg (Float.ofModel <| Float.Model.pack ·) (infinity_add _ hdefined hx)
  add_infinity {x} hx := by
    obtain ⟨hdefined, hx⟩ := (Float.zero_le_iff x).1 hx
    exact congrArg (Float.ofModel <| Float.Model.pack ·) (add_infinity _ hdefined hx)
  isNaN_mul_self x := (isNaN_unpack_pack _).trans (isNaN_mul_self _ x.toModel.unpack)
  mul_self_nonneg {x} hx :=
    Float.zero_le_ofModel ((isNaN_mul_self _ x.toModel.unpack).trans hx) (notNegative_mul_self _ _)
  mul_self_of_isInf hx := congrArg (Float.ofModel <| Float.Model.pack ·) (mul_self_of_isInf _ hx)
  isNaN_sqrt hx := (isNaN_unpack_pack _).trans (isNaN_sqrt _ ((Float.notNegative_iff _).2 hx))
  sqrt_infinity := rfl
  isNaN_div_ofNat x n hn hfinite := by
    obtain ⟨m, e, hm, hunpack⟩ := Float.unpack_ofNat hn hfinite
    change (Float.Model.pack (UnpackedFloat.div Format.binary64 x.toModel.unpack
      (Float.ofNat n).toModel.unpack)).unpack.isNaN = _
    rw [isNaN_unpack_pack, hunpack, isNaN_div_finite]
    rfl
  infinity_div_ofNat {n} hn hfinite := by
    obtain ⟨m, e, hm, hunpack⟩ := Float.unpack_ofNat hn hfinite
    change Float.ofModel (Float.Model.pack (UnpackedFloat.div Format.binary64
      (.infinity .positive) (Float.ofNat n).toModel.unpack)) = Scalar.infinity
    rw [hunpack]
    rfl

end Equilibrium
