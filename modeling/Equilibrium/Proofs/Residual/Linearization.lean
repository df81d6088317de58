import Equilibrium.Proofs.Residual.Euler
import Mathlib.LinearAlgebra.Matrix.Notation

/-!
The Jacobian of an implicit step.

A step adds a term to the residual and takes one off the diagonal of the Jacobian, each in a
function of its own. They belong together: between any two states, the Jacobian of the step leaves
as much of the residual of the step as the plain Jacobian leaves of the plain residual. So the one
is as good a linearization as the other.
-/

namespace Equilibrium

open Matrix

variable {n : ℕ}

/-- What is left of a function between the states `z` and `y` when the Jacobian in `z` is taken
off. -/
def IsRemainder (F J : Field Exact) (y z r : Fin n → ℝ) : Prop :=
  ∃ (u v : Fin n → ℝ) (A : Matrix (Fin n) (Fin n) ℝ), F (.real y) = .ok (.real u) ∧
    F (.real z) = .ok (.real v) ∧ J (.real z) = .ok (.matrix A) ∧ r = u - v - A *ᵥ (y - z)

/-- The rate at which a step of length `h` draws each component back to where it started. -/
noncomputable def relaxationRate (mask : Mask) (h : ℝ) (i : Fin n) : ℝ :=
  if isFixed mask i then 0 else 1 / h

variable {F G J : Field Exact} {x y z u : Fin n → ℝ} {h : ℝ} {marking : Marking} {mask : Mask}
  {A : Matrix (Fin n) (Fin n) ℝ}

theorem implicitResidual_relaxationRate
    (hmask : marking.mask n = (.ok mask : Except (Fault Exact) Mask)) (hh : h ≠ 0)
    (hG : implicitResidual F (.real x) (.finite h) marking = .ok G)
    (hF : F (.real y) = .ok (.real u)) :
    G (.real y) = .ok (.real (u + relaxationRate mask h * (x - y))) := by
  rw [implicitResidual_real hmask hh hG hF, Except.ok.injEq, Tensor.real_inj]
  funext i
  cases hi : isFixed mask i with
  | true => simp [relaxationRate, hi]
  | false => simp [relaxationRate, hi, div_eq_inv_mul]

/-- Where the diagonal is, row by row. -/
theorem divNat_eq_modNat_iff {k : Fin (n * n)} :
    (k : ℕ) / n = k % n ↔ k.divNat = k.modNat := by
  rw [Fin.ext_iff, Fin.coe_divNat, Fin.coe_modNat]

theorem implicitJacobian_relaxationRate
    (hmask : marking.mask n = (.ok mask : Except (Fault Exact) Mask)) (hh : h ≠ 0)
    (hJ : J (.real z) = .ok (.matrix A)) :
    implicitJacobian J (.finite h) marking (.real z) =
      .ok (.matrix (A - diagonal (relaxationRate mask h))) := by
  rw [implicitJacobian_of_square rfl Tensor.shape_real hJ Tensor.shape_matrix, hmask]
  change shifted _ mask n _ = _
  have hzero : ¬ dividesByZero (Exact.finite h) mask n = true := by
    simp [dividesByZero_eq_false (Exact.finite_beq_zero hh)]
  rw [shifted, if_neg hzero, Except.ok.injEq]
  refine Tensor.mapIdx_matrix fun k => ?_
  by_cases hdiag : k.divNat = k.modNat
  · cases hi : isFixed mask (k / n) with
    | true => simp [hi, relaxationRate, ← hdiag]
    | false =>
        simp [hi, relaxationRate, ← hdiag, divNat_eq_modNat_iff, Exact.one_eq,
          Exact.finite_div_finite _ _ hh]
  · simp [divNat_eq_modNat_iff, hdiag]

theorem IsRemainder.implicit (hmask : marking.mask n = (.ok mask : Except (Fault Exact) Mask))
    (hh : h ≠ 0) (hG : implicitResidual F (.real x) (.finite h) marking = .ok G) {r : Fin n → ℝ}
    (remainder : IsRemainder F J y z r) :
    IsRemainder G (implicitJacobian J (.finite h) marking) y z r := by
  obtain ⟨u, v, A, hy, hz, hJ, rfl⟩ := remainder
  refine ⟨_, _, _, implicitResidual_relaxationRate hmask hh hG hy,
    implicitResidual_relaxationRate hmask hh hG hz, implicitJacobian_relaxationRate hmask hh hJ, ?_⟩
  -- What the step adds is linear, and its slope is what is taken off the diagonal.
  have hdiagonal :
      diagonal (relaxationRate mask h) *ᵥ (y - z) = relaxationRate mask h * (y - z) := by
    funext i
    rw [mulVec_diagonal, Pi.mul_apply]
  rw [sub_mulVec, hdiagonal]
  ring

/-- The Jacobian of a step linearizes the residual of the step as the plain Jacobian does the plain
residual, for a finite step other than zero with an accepted marking and for an infinite one, where
both are the plain functions. -/
theorem implicit_remainder {step : Exact}
    (hstep : (∃ h : ℝ, h ≠ 0 ∧ step = .finite h ∧
      ∃ mask, marking.mask n = (.ok mask : Except (Fault Exact) Mask)) ∨
        Scalar.isInf step = true)
    (F J : Field Exact) (x : Fin n → ℝ) :
    ∃ G, implicitResidual F (.real x) step marking = .ok G ∧
      (∀ y z r : Fin n → ℝ, IsRemainder F J y z r →
        IsRemainder G (implicitJacobian J step marking) y z r) ∧
      (Scalar.isInf step = true → G = F ∧ implicitJacobian J step marking = J) := by
  obtain ⟨h, hh, rfl, mask, hmask⟩ | hinf := hstep
  · obtain ⟨G, hG⟩ := exists_implicitResidual F (.finite h) (Tensor.shape_real (y := x)) hmask
    exact ⟨G, hG, fun y z r remainder => remainder.implicit hmask hh hG, nofun⟩
  · have hplain : implicitJacobian J step marking = J :=
      implicitJacobian_of_isUnregularized hinf J _
    refine ⟨F, implicitResidual_of_isUnregularized hinf F _ _, fun y z r remainder => ?_,
      fun _ => ⟨rfl, hplain⟩⟩
    rwa [hplain]

/-- Squares, a matrix that is far from their Jacobian, and an algebraic component. -/
theorem implicit_remainder_squares :
    ∃ G, implicitResidual (fun y => .ok (y.mapIdx fun _ a => a * a)) (.real ![1, 5]) (.finite 2)
        (.entries (.vector [.index 1])) = .ok G ∧
      IsRemainder G (implicitJacobian (fun _ => .ok (.matrix !![1, 2; 3, 4])) (.finite 2)
        (.entries (.vector [.index 1]))) ![2, 1] ![0, 1] ![2, -6] := by
  have hsquares : ∀ y : Fin 2 → ℝ,
      (Tensor.real y).mapIdx (fun _ a => a * a) = .real fun i => y i * y i := fun y =>
    Tensor.mapIdx_real fun _ => rfl
  have hmask : (Marking.entries (.vector [.index 1])).mask 2 =
      (.ok [false, true] : Except (Fault Exact) Mask) := rfl
  obtain ⟨G, hG, hremainder, -⟩ := implicit_remainder (.inl ⟨2, two_ne_zero, rfl, _, hmask⟩)
    (fun y => .ok (y.mapIdx fun _ a => a * a)) (fun _ => .ok (.matrix !![1, 2; 3, 4])) ![1, 5]
  refine ⟨G, hG, hremainder _ _ _
    ⟨_, _, _, congrArg _ (hsquares _), congrArg _ (hsquares _), rfl, ?_⟩⟩
  funext i
  fin_cases i <;> norm_num [Matrix.mulVec, dotProduct, Fin.sum_univ_two]

end Equilibrium
