import Equilibrium.Proofs.Scalar.Exact
import Mathlib.Data.ENNReal.Inv

/-!
Exact numbers that are not below zero.

They are the extended nonnegative reals, with the same order and, as long as neither a zero meets an
infinity nor an infinity another, the same products and quotients. Results about products of many
factors are proved there, where the laws of multiplication hold, and carried over.
-/

namespace Equilibrium

namespace Exact

open scoped ENNReal

noncomputable def ofENNReal (x : ℝ≥0∞) : Exact :=
  if x = ∞ then infinite false else finite x.toReal

@[simp] theorem ofENNReal_top : ofENNReal ∞ = infinite false := if_pos rfl

@[simp] theorem ofENNReal_coe (x : NNReal) : ofENNReal x = finite x := if_neg ENNReal.coe_ne_top

theorem ofENNReal_one : ofENNReal 1 = 1 := ofENNReal_coe 1

theorem ofENNReal_ofReal {x : ℝ} (hx : 0 ≤ x) : ofENNReal (ENNReal.ofReal x) = finite x := by
  rw [ENNReal.ofReal, ofENNReal_coe, Real.coe_toNNReal x hx]

theorem exists_eq_ofENNReal {a : Exact} (ha : 0 < a) : ∃ x : ℝ≥0∞, 0 < x ∧ a = ofENNReal x := by
  rcases zero_lt_iff.1 ha with rfl | ⟨x, hx, rfl⟩
  · exact ⟨∞, ENNReal.zero_lt_top, ofENNReal_top.symm⟩
  · exact ⟨ENNReal.ofReal x, ENNReal.ofReal_pos.2 hx, (ofENNReal_ofReal hx.le).symm⟩

variable {x y : ℝ≥0∞}

theorem ofENNReal_le_iff : ofENNReal x ≤ ofENNReal y ↔ x ≤ y := by
  induction x using ENNReal.recTopCoe <;> induction y using ENNReal.recTopCoe <;> simp

theorem ofENNReal_lt_iff : ofENNReal x < ofENNReal y ↔ x < y := by
  induction x using ENNReal.recTopCoe <;> induction y using ENNReal.recTopCoe <;> simp

theorem zero_lt_ofENNReal (hx : 0 < x) : 0 < ofENNReal x := by
  have hzero : (0 : Exact) = ofENNReal 0 := (ofENNReal_coe 0).symm
  rw [hzero, ofENNReal_lt_iff]
  exact hx

theorem ofENNReal_mul (hx : 0 < x) (hy : 0 < y) :
    ofENNReal (x * y) = ofENNReal x * ofENNReal y := by
  induction x using ENNReal.recTopCoe with
  | top =>
      rw [ENNReal.top_mul hy.ne', ofENNReal_top]
      exact (infinity_mul (zero_lt_ofENNReal hy)).symm
  | coe x =>
      induction y using ENNReal.recTopCoe with
      | top =>
          rw [ENNReal.mul_top hx.ne', ofENNReal_top]
          exact (mul_infinity (zero_lt_ofENNReal hx)).symm
      | coe y =>
          rw [← ENNReal.coe_mul, ofENNReal_coe, ofENNReal_coe, ofENNReal_coe, finite_mul_finite,
            NNReal.coe_mul]

/-- Quotients agree where what is divided by is neither zero nor infinite. -/
theorem ofENNReal_div {y : NNReal} (hy : 0 < y) :
    ofENNReal (x / y) = ofENNReal x / finite y := by
  have hy' : (y : ℝ) ≠ 0 := NNReal.coe_ne_zero.2 hy.ne'
  induction x using ENNReal.recTopCoe with
  | top =>
      have hnonneg : ¬ (y : ℝ) < 0 := not_lt.2 y.2
      rw [ENNReal.top_div_coe, ofENNReal_top, infinite_div_finite, if_neg hnonneg]
  | coe x =>
      rw [← ENNReal.coe_div hy.ne', ofENNReal_coe, ofENNReal_coe, finite_div_finite _ _ hy',
        NNReal.coe_div]

theorem timesPower_ofENNReal (hx : 0 < x) (hy : 0 < y) (n : Nat) :
    timesPower (ofENNReal x) (ofENNReal y) n = ofENNReal (x * y ^ n) := by
  induction n with
  | zero => rw [timesPower_zero, pow_zero, mul_one]
  | succ n ih =>
      have hpos : 0 < x * y ^ n := ENNReal.mul_pos hx.ne' (pow_ne_zero n hy.ne')
      rw [timesPower_succ, ih, ← ofENNReal_mul hpos hy, pow_succ, mul_assoc]

/-- To cut at a ceiling is to take the smaller of the two. -/
theorem capped_ofENNReal : Scalar.capped (ofENNReal y) (ofENNReal x) = ofENNReal (min x y) := by
  unfold Scalar.capped
  split
  · next h => rw [min_eq_right (ofENNReal_lt_iff.1 h).le]
  · next h => rw [min_eq_left (not_lt.1 fun hlt => h (ofENNReal_lt_iff.2 hlt))]

end Exact

end Equilibrium
