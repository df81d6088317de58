import Equilibrium.Proofs.Scalar.Double
import Mathlib.Algebra.Order.Ring.Int
import Mathlib.Data.Nat.Log
import Mathlib.Tactic.Positivity

/-!
Doubles are told apart by their differences.

Two doubles lie at least one digit of the least exponent apart, and rounding keeps the leading digit
of whatever is that large, so that a difference of different doubles never becomes zero. The same
reasoning shows that whole numbers are above zero, also those that are rounded. What is followed
through an operation is that a magnitude has a digit and no more digits than a double has; packing
such a magnitude yields a double above zero. An absolute value is above zero for the same reason.
-/

namespace Equilibrium

open Float.Model Float.Model.UnpackedFloat

/-! ### Shifts -/

theorem mantissa_shiftRight (em : ExtendedMantissa) (n : Nat) :
    (em >>> n).mantissa = em.mantissa / 2 ^ n := by
  change (n.repeat ExtendedMantissa.shiftRightOne em).mantissa = _
  induction n with
  | zero => simp [Nat.repeat]
  | succ n ih =>
      change (n.repeat ExtendedMantissa.shiftRightOne em).mantissa / 2 = _
      rw [ih, Nat.div_div_eq_div_mul, pow_succ]

theorem le_roundedMantissa (em : ExtendedMantissa) : em.mantissa ≤ em.roundedMantissa := by
  obtain ⟨m, r, s⟩ := em
  cases r <;> cases s <;>
    simp [ExtendedMantissa.roundedMantissa, ExtendedMantissa.accuracy, Accuracy.roundToNearestEven]

theorem mantissa_ofMantissaAndAccuracy (m : Nat) (a : Accuracy) :
    (ExtendedMantissa.ofMantissaAndAccuracy m a).mantissa = m := by
  cases a with
  | exact => rfl
  | inexact o => cases o <;> rfl

theorem targetExponent_eq (m : Nat) (e : Int) :
    Format.binary64.targetExponent (totalExponent m e) = max (m.log2 + e - 52) (-1074) := by
  have hmin : Format.binary64.minExponent = -1074 := by decide
  have hbits : Format.binary64.mantissaBits = 53 := by decide
  rw [Format.targetExponent, totalExponent, hmin, hbits]
  omega

/-- A positive magnitude that is brought to the exponent of its size keeps at least one digit and at
most as many as a double has. -/
theorem shiftToTargetExponent_bounds {m : Nat} {e : Int} (a : Accuracy) (hm : 0 < m)
    (he : -1074 ≤ m.log2 + e) :
    0 < (shiftToTargetExponent Format.binary64 m e a).1.mantissa ∧
      (shiftToTargetExponent Format.binary64 m e a).1.mantissa < 2 ^ 53 ∧
      -1074 ≤ (shiftToTargetExponent Format.binary64 m e a).2 := by
  simp only [shiftToTargetExponent, shiftToExponent, targetExponent_eq, mantissa_shiftRight,
    mantissa_ofMantissaAndAccuracy]
  generalize hs : (max ((m.log2 : Int) + e - 52) (-1074) - e).toNat = s
  have hlow : 2 ^ m.log2 ≤ m := Nat.log2_self_le hm.ne'
  have hhigh : m < 2 ^ (m.log2 + 1) := Nat.lt_log2_self
  refine ⟨?_, ?_, by omega⟩
  · have hle : 2 ^ s ≤ m := (Nat.pow_le_pow_right two_pos (by omega)).trans hlow
    exact Nat.div_pos hle (Nat.two_pow_pos s)
  · rw [Nat.div_lt_iff_lt_mul (Nat.two_pow_pos s), ← pow_add]
    exact hhigh.trans_le (Nat.pow_le_pow_right two_pos (by omega))

/-! ### Numbers above zero -/

def Above : UnpackedFloat → Prop
  | .infinity s => s = .positive
  | .finite s .. => s = .positive
  | _ => False

/-- An unpacked number is above zero and has at most the digits of a double, at an exponent a double
reaches. -/
def FitsAbove : UnpackedFloat → Prop
  | .finite s m e _ => s = .positive ∧ m < 2 ^ 53 ∧ -1074 ≤ e
  | _ => False

theorem fitsAbove_roundWithAccuracy {m : Nat} {e : Int} (a : Accuracy) (hm : 0 < m)
    (he : -1074 ≤ m.log2 + e) : FitsAbove (roundWithAccuracy Format.binary64 .positive m e a) := by
  unfold roundWithAccuracy
  obtain ⟨hpos, -, he₁⟩ := shiftToTargetExponent_bounds a hm he
  generalize shiftToTargetExponent Format.binary64 m e a = first at hpos he₁ ⊢
  have hrounded : 0 < first.1.roundedMantissa := hpos.trans_le (le_roundedMantissa first.1)
  obtain ⟨hpos₂, hlt, he₂⟩ := @shiftToTargetExponent_bounds _ first.2 .exact hrounded (by omega)
  dsimp only
  rw [dif_neg hpos₂.ne']
  exact ⟨rfl, hlt, he₂⟩

theorem fitsAbove_normalize {n : Int} {e : Int} (z : Sign) (hn : 0 < n) (he : -1074 ≤ e) :
    FitsAbove (UnpackedFloat.normalize Format.binary64 n e z) := by
  have hcompare : compare n 0 = .gt := Int.compare_eq_gt.2 hn
  simp only [UnpackedFloat.normalize, hcompare, UnpackedFloat.round, decreaseExponent,
    targetExponent_eq]
  refine fitsAbove_roundWithAccuracy .exact ?_ (by omega)
  rw [Nat.shiftLeft_eq]
  exact Nat.mul_pos (by omega) (Nat.two_pow_pos _)

theorem above_unpack_packComponents {e : BitVec 11} {m : BitVec 52} (hones : e ≠ -1#11)
    (h : e ≠ 0#11 ∨ m ≠ 0#52) :
    Above (UnpackedFloat.unpack Format.binary64
      (packComponents Format.binary64 .positive e m)) := by
  have hsign : Sign.ofBitVec Sign.positive.toBitVec = .positive := rfl
  unfold UnpackedFloat.unpack
  dsimp only
  rw [unpackSign_packComponents, hsign, unpackExponent_packComponents, if_neg hones]
  by_cases hzero : e = 0#11
  · have hmantissa : m ≠ 0#52 := h.resolve_left (not_not.2 hzero)
    rw [← @unpackMantissa_packComponents Format.binary64 .positive e m] at hmantissa
    rw [if_pos hzero, dif_neg hmantissa]
    rfl
  · rw [if_neg hzero]
    rfl

theorem above_unpack_pack {f : UnpackedFloat} (h : FitsAbove f) :
    Above (Float.Model.pack f).unpack := by
  cases f with
  | notANumber => exact h.elim
  | infinity s => exact h.elim
  | zero s => exact h.elim
  | finite s m e hm =>
      obtain ⟨rfl, hlt, he⟩ := h
      change Above (UnpackedFloat.unpack Format.binary64 (UnpackedFloat.pack Format.binary64 _))
      have hbias : (Format.binary64.exponentBias : Int) = 1023 := by decide
      unfold UnpackedFloat.pack
      simp only [hbias]
      split
      · rfl
      · next hsmall =>
        split
        · -- A normal number has neither the exponent of zero nor that of infinity.
          refine above_unpack_packComponents ?_ (.inl ?_) <;>
          · rw [ne_eq, ← BitVec.toNat_inj, BitVec.toNat_ofNat, Nat.mod_eq_of_lt (by omega)]
            simp
            omega
        · next hlog =>
          -- The magnitude of a subnormal number has fewer digits, so that nothing is cut off.
          have hlog : m.log2 < 52 := by
            have : m.log2 < 53 := (Nat.log2_lt hm.ne').2 hlt
            change ¬ m.log2 + 1 = 53 at hlog
            omega
          refine above_unpack_packComponents (by decide) (.inr ?_)
          rw [ne_eq, ← BitVec.toNat_inj, BitVec.toNat_ofNat,
            Nat.mod_eq_of_lt ((Nat.log2_lt hm.ne').1 hlog)]
          exact hm.ne'

/-! ### Canonical magnitudes -/

/-- The magnitude and the exponent of a double: as many digits as there are, or the least
exponent. -/
structure Canonical (m : Nat) (e : Int) : Prop where
  lt : m < 2 ^ 53
  le : -1074 ≤ e
  digits : e = -1074 ∨ 2 ^ 52 ≤ m

theorem canonical_unpack {b : BitVec 64} {s : Sign} {m : Nat} {e : Int} {hm : 0 < m}
    (h : UnpackedFloat.unpack Format.binary64 b = .finite s m e hm) : Canonical m e := by
  have hbias : (Format.binary64.exponentBias : Int) = 1023 := by decide
  have hmantissa : (@UnpackedFloat.unpackMantissa Format.binary64 b).toNat < 2 ^ 52 :=
    (@UnpackedFloat.unpackMantissa Format.binary64 b).isLt
  unfold UnpackedFloat.unpack at h
  dsimp only at h
  by_cases hones : @UnpackedFloat.unpackExponent Format.binary64 b = -1#11
  · rw [if_pos hones] at h
    by_cases hnone : @UnpackedFloat.unpackMantissa Format.binary64 b = 0#52
    · rw [if_pos hnone] at h
      cases h
    · rw [if_neg hnone] at h
      cases h
  rw [if_neg hones] at h
  by_cases hzero : @UnpackedFloat.unpackExponent Format.binary64 b = 0#11
  · -- A subnormal number has the least exponent.
    rw [if_pos hzero] at h
    by_cases hnone : @UnpackedFloat.unpackMantissa Format.binary64 b = 0#52
    · rw [dif_pos hnone] at h
      cases h
    · rw [dif_neg hnone] at h
      cases h
      refine ⟨by omega, ?_, .inl ?_⟩ <;> simp [hzero, hbias]
  · -- A normal one has all the digits.
    rw [if_neg hzero] at h
    cases h
    generalize hv : @UnpackedFloat.unpackExponent Format.binary64 b = v at hzero ⊢
    have hpos : 0 < v.toNat := by
      refine Nat.pos_of_ne_zero fun h => hzero ?_
      exact BitVec.eq_of_toNat_eq (by simpa using h)
    refine ⟨by omega, by simp [hbias]; omega, .inr ?_⟩
    rw [BitVec.toNat_append, ← Nat.shiftLeft_add_eq_or_of_lt hmantissa]
    simp [Nat.shiftLeft_eq]

/-- Of two canonical numbers that compare as lower and higher, the lower has the smaller magnitude
at any exponent both can be brought to. -/
theorem Canonical.shiftLeft_lt {m m' : Nat} {e e' : Int} (h : Canonical m e) (h' : Canonical m' e')
    (hlt : (compare e e').then (compare m m') = .lt) :
    m <<< (e - min e e').toNat < m' <<< (e' - min e e').toNat := by
  rw [Nat.shiftLeft_eq, Nat.shiftLeft_eq]
  obtain hexp | ⟨hexp, hm⟩ := Ordering.then_eq_lt.1 hlt
  · have hexp : e < e' := Int.compare_eq_lt.1 hexp
    have hdigits : 2 ^ 52 ≤ m' := h'.digits.resolve_left (by have := h.le; omega)
    have hshift : 2 ^ 1 ≤ 2 ^ (e' - min e e').toNat := Nat.pow_le_pow_right two_pos (by omega)
    have hself : (e - min e e').toNat = 0 := by omega
    rw [hself]
    have := h.lt
    calc m * 2 ^ 0 < 2 ^ 52 * 2 ^ 1 := by omega
      _ ≤ m' * 2 ^ (e' - min e e').toNat := Nat.mul_le_mul hdigits hshift
  · obtain rfl : e = e' := Int.compare_eq_eq.1 hexp
    exact Nat.mul_lt_mul_of_pos_right (Nat.compare_eq_lt.1 hm) (Nat.two_pow_pos _)

/-! ### Differences -/

/-- An unpacked number is one that unpacking a double gives, and not infinite or undefined. -/
def IsReal : UnpackedFloat → Prop
  | .zero _ => True
  | .finite _ m e _ => Canonical m e
  | _ => False

theorem isReal_unpack {x : Float} (h : Scalar.isFinite x = true) : IsReal x.toModel.unpack := by
  have hnan : x.toModel.unpack.isNaN = false := Scalar.isNaN_of_isFinite h
  have hinf : x.toModel.unpack.isInf = false := Scalar.isInf_of_isFinite h
  cases hx : x.toModel.unpack with
  | notANumber =>
      rw [hx] at hnan
      cases hnan
  | infinity s =>
      rw [hx] at hinf
      cases hinf
  | zero s => trivial
  | finite s m e hm => exact canonical_unpack hx

theorem fitsAbove_sub {f g : UnpackedFloat} (hf : IsReal f) (hg : IsReal g)
    (h : UnpackedFloat.compare f g = some .lt) :
    FitsAbove (UnpackedFloat.sub Format.binary64 g f) := by
  cases f with
  | notANumber => exact hf.elim
  | infinity s => exact hf.elim
  | zero s =>
      cases g with
      | notANumber => exact hg.elim
      | infinity t => exact hg.elim
      | zero t => cases h
      | finite t m e hm =>
          cases t with
          | negative => cases h
          | positive => exact ⟨rfl, hg.lt, hg.le⟩
  | finite s m e hm =>
      have he := Canonical.le hf
      have hlow : Canonical m e := hf
      cases g with
      | notANumber => exact hg.elim
      | infinity t => exact hg.elim
      | zero t =>
          cases s with
          | negative => exact ⟨rfl, hlow.lt, hlow.le⟩
          | positive => cases h
      | finite t m' e' hm' =>
          have hpos : 0 < m <<< (e - min e' e).toNat := by
            rw [Nat.shiftLeft_eq]
            exact Nat.mul_pos hm (Nat.two_pow_pos _)
          have hhigh : Canonical m' e' := hg
          unfold UnpackedFloat.sub
          dsimp only [decreaseExponent]
          refine fitsAbove_normalize .positive ?_ (le_min hhigh.le hlow.le)
          cases s with
          | negative =>
              cases t with
              | negative =>
                  have hlt := hhigh.shiftLeft_lt hlow (by
                    rw [compare_then_swap]
                    exact Option.some.inj h)
                  simp only [Sign.apply]
                  omega
              | positive =>
                  generalize m' <<< (e' - min e' e).toNat = k
                  simp only [Sign.apply]
                  omega
          | positive =>
              cases t with
              | negative => cases h
              | positive =>
                  have hlt := hlow.shiftLeft_lt hhigh (Option.some.inj h)
                  rw [min_comm] at hlt
                  simp only [Sign.apply]
                  omega

theorem sub_self_of_isReal {f : UnpackedFloat} (hf : IsReal f) :
    UnpackedFloat.sub Format.binary64 f f = .zero .positive := by
  cases f with
  | notANumber => exact hf.elim
  | infinity s => exact hf.elim
  | zero s => cases s <;> rfl
  | finite s m e hm =>
      unfold UnpackedFloat.sub
      dsimp only
      rw [sub_self]
      rfl

/-! ### Whole numbers -/

theorem mul_positive (spec : Format) {m m' : Nat} {e e' : Int} (hm : 0 < m) (hm' : 0 < m') :
    UnpackedFloat.mul spec (.finite .positive m e hm) (.finite .positive m' e' hm') =
      roundWithAccuracy spec .positive (m * m') (e + e') .exact := rfl

theorem fitsAbove_ofScientific {n : Nat} (hn : 0 < n) :
    FitsAbove (UnpackedFloat.ofScientific Format.binary64 n 0) := by
  have hbits : Format.binary64.mantissaBits = 53 := by decide
  have hlow : ¬ (0 : Int) < -((2 ^ Format.binary64.exponentBits : Int) + n.log2) := by
    have : (0 : Int) < 2 ^ Format.binary64.exponentBits := by decide
    omega
  rw [UnpackedFloat.ofScientific, dif_neg hn.ne', if_neg (by decide), if_neg hlow, if_pos le_rfl,
    mul_positive, hbits, Nat.shiftLeft_eq]
  exact fitsAbove_roundWithAccuracy .exact (by positivity) (by omega)

theorem above_mul_one {f : UnpackedFloat} (hf : Above f)
    (hfinite : ∀ s m e hm, f = .finite s m e hm → Canonical m e) :
    Above (Float.Model.pack
      (UnpackedFloat.mul Format.binary64 f (1.0 : Float).toModel.unpack)).unpack := by
  have hone : (1.0 : Float).toModel.unpack = .finite .positive (2 ^ 52) (-52) (by decide) := rfl
  rw [hone]
  cases f with
  | notANumber => exact hf.elim
  | infinity s =>
      obtain rfl : s = .positive := hf
      rfl
  | zero s => exact hf.elim
  | finite s m e hm =>
      obtain rfl : s = .positive := hf
      have he : -1074 ≤ e := (hfinite _ m e hm rfl).le
      refine above_unpack_pack (fitsAbove_roundWithAccuracy .exact (by positivity) ?_)
      have hlog : 52 ≤ (m * 2 ^ 52).log2 :=
        (Nat.le_log2 (by positivity)).2 (Nat.le_mul_of_pos_left _ hm)
      omega

theorem Float.zero_lt_iff (x : Float) : 0 < x ↔ Above x.toModel.unpack := by
  have hzero : (0 : Float).toModel.unpack = .zero .positive := rfl
  rw [Float.lt_iff, hzero]
  cases x.toModel.unpack with
  | notANumber => exact iff_of_false (by rintro ⟨⟩) id
  | infinity s =>
      cases s with
      | positive => exact iff_of_true rfl rfl
      | negative => exact iff_of_false (by rintro ⟨⟩) Sign.noConfusion
  | zero s => exact iff_of_false (by rintro ⟨⟩) id
  | finite s m e hm =>
      cases s with
      | positive => exact iff_of_true rfl rfl
      | negative => exact iff_of_false (by rintro ⟨⟩) Sign.noConfusion

theorem Float.zero_lt_ofNat {n : Nat} (hn : 0 < n) : 0 < Float.ofNat n := by
  rw [Float.zero_lt_iff]
  unfold Float.ofNat OfScientific.ofScientific instOfScientificFloat Float.ofScientific
  simp only
  split
  · next h =>
    refine above_mul_one (above_unpack_pack (fitsAbove_normalize .positive ?_ (by decide))) ?_
    · simp
      omega
    · intro s m e hm hunpack
      exact canonical_unpack hunpack
  · exact above_unpack_pack (fitsAbove_ofScientific hn)

theorem Float.zero_lt_sub {x y : Float} (hx : Scalar.isFinite x = true)
    (hy : Scalar.isFinite y = true) (h : x < y) : 0 < y - x := by
  rw [Float.lt_iff] at h
  rw [Float.zero_lt_iff]
  exact above_unpack_pack (fitsAbove_sub (isReal_unpack hx) (isReal_unpack hy) h)

theorem Float.sub_self {x : Float} (hx : Scalar.isFinite x = true) : x - x = 0 := by
  change Float.ofModel (Float.Model.pack
    (UnpackedFloat.sub Format.binary64 x.toModel.unpack x.toModel.unpack)) = 0
  rw [sub_self_of_isReal (isReal_unpack hx)]
  rfl

instance : Scalar.Spaced Float where
  le_of_lt := Float.le_of_lt
  zero_lt_sub := Float.zero_lt_sub
  sub_self := Float.sub_self
  zero_lt_ofNat := Float.zero_lt_ofNat

/-! ### Sizes -/

theorem Float.abs_eq_zero_or_pos {x : Float} (hx : Scalar.isNaN x = false) :
    Float.abs x = 0 ∨ 0 < Float.abs x := by
  have hnan : x.toModel.unpack.isNaN = false := hx
  have habs : Float.abs x = .ofModel (Float.Model.pack x.toModel.unpack.abs) := rfl
  have hmodel : (Float.abs x).toModel.unpack = (Float.Model.pack x.toModel.unpack.abs).unpack := rfl
  rw [Float.zero_lt_iff, hmodel, habs]
  cases hunpack : x.toModel.unpack with
  | notANumber =>
      rw [hunpack] at hnan
      cases hnan
  | infinity s =>
      have habs : (UnpackedFloat.infinity s).abs = .infinity .positive := by cases s <;> rfl
      rw [habs]
      exact .inr rfl
  | zero s => exact .inl rfl
  | finite s m e hm =>
      have hcanonical : Canonical m e := canonical_unpack hunpack
      exact .inr (above_unpack_pack (f := .finite .positive m e hm)
        ⟨rfl, hcanonical.lt, hcanonical.le⟩)

theorem Float.lt_infinity {x : Float} (hx : Scalar.isFinite x = true) : x < Scalar.infinity := by
  have hinfinity : (Scalar.infinity : Float).toModel.unpack = .infinity .positive := rfl
  have hreal := isReal_unpack hx
  rw [Float.lt_iff, hinfinity]
  cases hunpack : x.toModel.unpack with
  | notANumber =>
      rw [hunpack] at hreal
      exact hreal.elim
  | infinity s =>
      rw [hunpack] at hreal
      exact hreal.elim
  | zero s => rfl
  | finite s m e hm => cases s <;> rfl

instance : Scalar.Sized Float where
  abs_eq_zero_or_pos := Float.abs_eq_zero_or_pos
  lt_infinity := Float.lt_infinity

end Equilibrium
