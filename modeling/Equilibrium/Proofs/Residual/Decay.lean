import Equilibrium.Proofs.Residual.Euler
import Equilibrium.Proofs.Residual.Magnitude
import Mathlib.Algebra.BigOperators.Fin
import Mathlib.Algebra.Order.BigOperators.Group.Finset
import Mathlib.Tactic.Positivity

/-!
Decaying linear systems.

The simplest systems that a search has to get right: each component decays towards zero at a rate of
its own. Their implicit steps have roots that are found by hand, and a root is nearer to zero than
the state before it, in every component and by a factor that only the slowest rate and the length of
the step decide. The same factor then bounds the distance.
-/

namespace Equilibrium

variable {n : ℕ}

/-! ### Distances -/

def Decays (F : Field Exact) (rate : Fin n → ℝ) : Prop :=
  ∀ y : Fin n → ℝ, F (.real y) = .ok (.real fun i => -rate i * y i)

noncomputable def decayDistance (rate y : Fin n → ℝ) : ℝ := √(∑ i, (rate i * y i) ^ 2) / n

variable {F G : Field Exact} {rate x y z : Fin n → ℝ}

theorem residualDistance_of_decays (decays : Decays F rate) (hn : n ≠ 0) (y : Fin n → ℝ) :
    residualDistance F (.real y) = .ok (.finite (decayDistance rate y)) := by
  have hlength : normalizedLength (fun i => -rate i * y i) = decayDistance rate y := by
    simp only [normalizedLength, decayDistance, neg_mul, neg_sq]
  rw [← hlength]
  exact Exact.residualDistance_real (Nat.pos_of_ne_zero hn) (decays y)

theorem decayDistance_nonneg : 0 ≤ decayDistance rate y := normalizedLength_nonneg

/-- If every component shrinks by a factor, so does the distance. -/
theorem decayDistance_shrinks {c : ℝ} (hc : 0 ≤ c) (h : ∀ i, |z i| * c ≤ |y i|) :
    decayDistance rate z * c ≤ decayDistance rate y := by
  refine normalizedLength_mul_le hc fun i => ?_
  calc |rate i * z i| * c = |rate i| * (|z i| * c) := by rw [abs_mul, mul_assoc]
    _ ≤ |rate i| * |y i| := mul_le_mul_of_nonneg_left (h i) (abs_nonneg _)
    _ = |rate i * y i| := (abs_mul _ _).symm

/-! ### Implicit steps -/

variable {mask : Mask} {step : Exact} {h : ℝ}

theorem isFixed_of_differential (differential : mask.any id = false) {i : ℕ}
    (hi : i < mask.length) : isFixed mask i = false := by
  have hentry : mask[i] = false := by
    simpa using List.any_eq_false.1 differential mask[i] (List.getElem_mem hi)
  simp [isFixed, hi, hentry]

/-- The equation of a step of finite length, at real vectors. -/
theorem implicit_of_decays (decays : Decays F rate) (hn : n ≠ 0) (hmask : mask.length = n)
    (differential : mask.any id = false) (hh : 0 < h)
    (hG : implicitResidual F (.real x) (.finite h) (.ofMask mask) = .ok G) (z : Fin n → ℝ) :
    G (.real z) = .ok (.real fun i => -rate i * z i + (x i - z i) / h) := by
  rw [implicitResidual_real (Marking.mask_ofMask hn hmask) hh.ne' hG (decays z)]
  have hfixed : ∀ i : Fin n, isFixed mask i = false := fun i =>
    isFixed_of_differential differential (by omega)
  simp [hfixed]

/-- The equation of a step from a real vector is a line in each component, and none of them is
level. -/
theorem implicit_affine (decays : Decays F rate) (hn : n ≠ 0) (hmask : mask.length = n)
    (differential : mask.any id = false) (rates : ∀ i, 0 < rate i) (hstep : 0 < step)
    (hG : implicitResidual F (.real x) step (.ofMask mask) = .ok G) :
    ∃ slope offset : Fin n → ℝ, (∀ i, slope i ≠ 0) ∧
      ∀ z : Fin n → ℝ, G (.real z) = .ok (.real fun i => slope i * z i + offset i) := by
  -- A step of infinite length leaves the plain residual, whose lines go through zero.
  obtain rfl | ⟨h, hh, rfl⟩ := Exact.zero_lt_iff.1 hstep
  · rw [implicitResidual_of_isUnregularized rfl] at hG
    cases hG
    refine ⟨fun i => -rate i, fun _ => 0, fun i => neg_ne_zero.2 (rates i).ne', fun z => ?_⟩
    simp only [decays z, add_zero]
  · refine ⟨fun i => -(rate i + 1 / h), fun i => x i / h, fun i => ?_, fun z => ?_⟩
    · have hslope : 0 < rate i + 1 / h := add_pos (rates i) (one_div_pos.2 hh)
      exact neg_ne_zero.2 hslope.ne'
    · have hline : ∀ i, -rate i * z i + (x i - z i) / h = -(rate i + 1 / h) * z i + x i / h :=
        fun i => by ring
      simp only [implicit_of_decays decays hn hmask differential hh hG, hline]

/-- So it has a root. -/
theorem exists_root (decays : Decays F rate) (hn : n ≠ 0) (hmask : mask.length = n)
    (differential : mask.any id = false) (rates : ∀ i, 0 < rate i) (hstep : 0 < step)
    (hG : implicitResidual F (.real x) step (.ofMask mask) = .ok G) :
    ∃ z : Fin n → ℝ, IsRoot G z := by
  obtain ⟨slope, offset, hslope, hline⟩ :=
    implicit_affine decays hn hmask differential rates hstep hG
  refine ⟨fun i => -offset i / slope i, ?_⟩
  have hzero : ∀ i, slope i * (-offset i / slope i) + offset i = 0 := by
    intro i
    rw [mul_div_cancel₀ _ (hslope i), neg_add_cancel]
  simp only [IsRoot, hline, hzero]

/-- A root is nearer to zero than the state before it, in every component. -/
theorem IsRoot.shrinks (decays : Decays F rate) (hn : n ≠ 0) (hmask : mask.length = n)
    (differential : mask.any id = false) {slowest m : ℝ} (hslowest : 0 < slowest)
    (rates : ∀ i, slowest ≤ rate i) (hm : 0 < m) (hstep : .finite m ≤ step)
    (hG : implicitResidual F (.real x) step (.ofMask mask) = .ok G) (root : IsRoot G z)
    (i : Fin n) :
    |z i| * (1 + slowest * m) ≤ |x i| := by
  have hrate : 0 < rate i := hslowest.trans_le (rates i)
  cases step with
  | undefined => exact absurd hstep (Exact.not_le_undefined _)
  | infinite s =>
      rw [implicitResidual_of_isUnregularized rfl] at hG
      cases hG
      rw [IsRoot, decays z, Except.ok.injEq] at root
      have hzero : -rate i * z i = 0 := congrFun (Tensor.real_injective root) i
      have hz : z i = 0 := (mul_eq_zero.1 hzero).resolve_left (neg_ne_zero.2 hrate.ne')
      rw [hz, abs_zero, zero_mul]
      exact abs_nonneg _
  | finite h =>
      have hmh : m ≤ h := hstep
      have hh : 0 < h := hm.trans_le hmh
      rw [IsRoot, implicit_of_decays decays hn hmask differential hh hG, Except.ok.injEq] at root
      have hzero : -rate i * z i + (x i - z i) / h = 0 := congrFun (Tensor.real_injective root) i
      -- The root of the line is the old component divided by a factor that grows with the step.
      have hx : x i = z i * (1 + rate i * h) := by
        field_simp at hzero
        linarith
      have hfactor : 1 + slowest * m ≤ 1 + rate i * h := by
        have hproduct : slowest * m ≤ rate i * h := mul_le_mul (rates i) hmh hm.le hrate.le
        linarith
      rw [hx, abs_mul, abs_of_pos (by positivity : (0 : ℝ) < 1 + rate i * h)]
      exact mul_le_mul_of_nonneg_left hfactor (abs_nonneg _)

end Equilibrium
