import Equilibrium.Proofs.Residual.Mask
import Equilibrium.Proofs.Trace
import Equilibrium.Residual.Implicit

/-!
Functions that return.

The residual of an implicit step and its Jacobian are made of functions that may fail, and add two
ways of failing: by a shape, and by a division by a zero step. As long as the step is not zero the
second is gone. What is made of a total function whose values have the right shape is then total,
and what is made of a function that never divides by zero never does.
-/

namespace Equilibrium

variable {α : Type}

/-- A function returns at every state of a shape, with a value of another. -/
def Total (F : Field α) (domain codomain : List Nat) : Prop :=
  ∀ y : Tensor α, y.shape = domain → ∃ value, F y = .ok value ∧ value.shape = codomain

def NeverDivides (F : Field α) : Prop := ∀ y, F y ≠ .error .divisionByZero

theorem Tensor.atLeastVector_of_shape {y : Tensor α} {n : Nat} (h : y.shape = [n]) :
    y.atLeastVector = y := by
  unfold atLeastVector
  split
  · next h' => simp [h] at h'
  · rfl

theorem Tensor.leading_of_shape {y : Tensor α} {n : Nat} (h : y.shape = [n]) : y.leading = n := by
  simp [leading, h]

/-! ### Implicit steps -/

variable [Scalar α] {F G J : Field α} {x : Tensor α} {step : α} {marking : Marking}

theorem dividesByZero_eq_false (hstep : (step == 0) = false) (mask : Mask) (n : Nat) :
    dividesByZero step mask n = false := by
  simp [dividesByZero, hstep]

theorem NeverDivides.implicitResidual (hF : NeverDivides F) (hstep : (step == 0) = false)
    (h : implicitResidual F x step marking = .ok G) : NeverDivides G := by
  intro y hy
  unfold Equilibrium.implicitResidual at h
  split at h
  · cases h
    exact hF y hy
  · obtain ⟨mask, -, h⟩ := except_bind_eq_ok_iff.1 h
    cases h
    -- What is evaluated first is `F` itself; after that only the slices or the quotients can fail.
    obtain hvalue | ⟨value, -, hrest⟩ := except_bind_eq_error_iff.1 hy
    · exact hF _ hvalue
    · split at hrest
      · cases hrest
      · split at hrest
        · unfold relaxedSlices at hrest
          simp only at hrest
          split at hrest
          · cases hrest
          · cases hrest
        · rw [relaxed, dividesByZero_eq_false hstep] at hrest
          cases hrest

theorem NeverDivides.implicitJacobian (hJ : NeverDivides J) (hstep : (step == 0) = false)
    (marking : Marking) : NeverDivides (implicitJacobian J step marking) := by
  intro y hy
  unfold Equilibrium.implicitJacobian at hy
  split at hy
  · exact hJ y hy
  · obtain hjac | ⟨jac, -, hrest⟩ := except_bind_eq_error_iff.1 hy
    · exact hJ _ hjac
    · split at hrest
      · split at hrest
        · obtain hmask | ⟨mask, -, hshift⟩ := except_bind_eq_error_iff.1 hrest
          · exact Marking.mask_ne_divisionByZero _ _ hmask
          · rw [shifted, dividesByZero_eq_false hstep] at hshift
            cases hshift
        · cases hrest
      · cases hrest

variable {n : Nat} {mask : Mask}

/-- The residual of a finite step, at a vector: the plain one is held against the shape of the state
and then relaxed. -/
theorem implicitResidual_apply (h : implicitResidual F x step marking = .ok G)
    (hfinite : Scalar.isInf step = false) (hx : x.shape = [n])
    (hmask : marking.mask n = (.ok mask : Except (Fault α) Mask)) {y : Tensor α}
    (hy : y.shape = [n]) :
    G y = F y >>= fun value => if value.shape = [n] then relaxed step mask x.entries y.entries value
      else .error (.residualShape value.shape [n]) := by
  have hleading : x.atLeastVector.leading = n := by
    rw [Tensor.atLeastVector_of_shape hx, Tensor.leading_of_shape hx]
  rw [implicitResidual, if_neg (by simp [isUnregularized, hfinite])] at h
  simp only [hleading, hmask] at h
  cases h
  simp only [Tensor.atLeastVector_of_shape hy, Tensor.atLeastVector_of_shape hx, hy]
  refine congrArg (F y >>= ·) (funext fun value => ?_)
  by_cases hshape : value.shape = [n]
  · have hvector : ¬ 1 < value.shape.length := by simp [hshape]
    rw [if_pos hshape, if_neg (not_not_intro hshape), if_neg hvector]
  · rw [if_neg hshape, if_pos hshape]
    rfl

/-- What it returns: the plain residual with the time derivative added in the differential
components. -/
theorem implicitResidual_value_iff (h : implicitResidual F x step marking = .ok G)
    (hfinite : Scalar.isInf step = false) (hx : x.shape = [n])
    (hmask : marking.mask n = (.ok mask : Except (Fault α) Mask)) {y g : Tensor α}
    (hy : y.shape = [n]) :
    G y = .ok g ↔ ∃ value, F y = .ok value ∧ value.shape = [n] ∧
      dividesByZero step mask n = false ∧ g = value.mapIdx fun i f =>
        if isFixed mask i then f else f + (x.entries.getD i 0 - y.entries.getD i 0) / step := by
  rw [implicitResidual_apply h hfinite hx hmask hy, except_bind_eq_ok_iff]
  refine exists_congr fun value => and_congr_right fun _ => ?_
  by_cases hshape : value.shape = [n]
  · rw [if_pos hshape, relaxed, Tensor.leading_of_shape hshape]
    cases hzero : dividesByZero step mask n with
    | true =>
        rw [if_pos rfl]
        refine iff_of_false ?_ fun h' => Bool.noConfusion h'.2.1
        intro h'
        cases h'
    | false =>
        rw [if_neg (by decide), Except.ok.injEq]
        exact ⟨fun h' => ⟨hshape, rfl, h'.symm⟩, fun h' => h'.2.2.symm⟩
  · rw [if_neg hshape]
    refine iff_of_false ?_ fun h' => hshape h'.1
    intro h'
    cases h'

/-- Where the plain residual has a value, that of a step has one exactly if the shape fits. -/
theorem implicitResidual_of_value (h : implicitResidual F x step marking = .ok G)
    (hfinite : Scalar.isInf step = false) (hstep : (step == 0) = false) (hx : x.shape = [n])
    (hmask : marking.mask n = (.ok mask : Except (Fault α) Mask)) {y value : Tensor α}
    (hy : y.shape = [n]) (hF : F y = .ok value) :
    ((∃ g, G y = .ok g) ↔ value.shape = [n]) ∧
      (value.shape ≠ [n] → G y = .error (.residualShape value.shape [n])) := by
  constructor
  · constructor
    · rintro ⟨g, hg⟩
      obtain ⟨value', hvalue', hshape, -⟩ :=
        (implicitResidual_value_iff h hfinite hx hmask hy).1 hg
      cases hF.symm.trans hvalue'
      exact hshape
    · intro hshape
      exact ⟨_, (implicitResidual_value_iff h hfinite hx hmask hy).2
        ⟨value, hF, hshape, dividesByZero_eq_false hstep mask n, rfl⟩⟩
  · intro hshape
    rw [implicitResidual_apply h hfinite hx hmask hy, hF]
    exact if_neg hshape

/-- A Jacobian that is square is shifted, by a mask of its own size. -/
theorem implicitJacobian_of_square (regularized : isUnregularized step = false) {y jac : Tensor α}
    (hy : y.shape = [n]) (hJ : J y = .ok jac) {m : Nat} (hshape : jac.shape = [m, m]) :
    implicitJacobian J step marking y =
      marking.mask m >>= fun mask => shifted step mask m jac := by
  rw [implicitJacobian, if_neg (Bool.not_eq_true _ ▸ regularized)]
  simp only [Tensor.atLeastVector_of_shape hy, hJ, bind, Except.bind, hshape, if_true]

/-- Every other one is refused. -/
theorem implicitJacobian_of_not_square (regularized : isUnregularized step = false)
    {y jac : Tensor α} (hy : y.shape = [n]) (hJ : J y = .ok jac)
    (hshape : ∀ m, jac.shape ≠ [m, m]) :
    implicitJacobian J step marking y = .error (.jacobianShape jac.shape) := by
  rw [implicitJacobian, if_neg (Bool.not_eq_true _ ▸ regularized)]
  simp only [Tensor.atLeastVector_of_shape hy, hJ, bind, Except.bind]
  split
  · next m m' heq =>
      have hm : m ≠ m' := by
        rintro rfl
        exact hshape m heq
      rw [if_neg hm]
      rfl
  · rfl

theorem exists_shifted (hstep : (step == 0) = false) (mask : Mask) (n : Nat) (jac : Tensor α) :
    ∃ g, shifted step mask n jac = .ok g ∧ g.shape = jac.shape := by
  rw [shifted, dividesByZero_eq_false hstep]
  exact ⟨_, rfl, rfl⟩

/-- The Jacobian of a step takes square matrices of the size of the mask, and refuses every other
value. -/
theorem implicitJacobian_of_value (regularized : isUnregularized step = false)
    (hstep : (step == 0) = false) (hn : n ≠ 0) (hlength : mask.length = n) {y jac : Tensor α}
    (hy : y.shape = [n]) (hJ : J y = .ok jac) :
    ((∃ g, implicitJacobian J step (.ofMask mask) y = .ok g) ↔ jac.shape = [n, n]) ∧
      (∀ m, m ≠ n → jac.shape = [m, m] →
        implicitJacobian J step (.ofMask mask) y = .error (.maskShape [n] m)) ∧
      ((∀ m, jac.shape ≠ [m, m]) →
        implicitJacobian J step (.ofMask mask) y = .error (.jacobianShape jac.shape)) := by
  have hother : ∀ m, m ≠ n → jac.shape = [m, m] →
      implicitJacobian J step (.ofMask mask) y = .error (.maskShape [n] m) := by
    intro m hm hshape
    rw [implicitJacobian_of_square regularized hy hJ hshape,
      Marking.mask_ofMask_of_ne hn hlength hm]
    rfl
  have hnone : (∀ m, jac.shape ≠ [m, m]) →
      implicitJacobian J step (.ofMask mask) y = .error (.jacobianShape jac.shape) :=
    implicitJacobian_of_not_square regularized hy hJ
  refine ⟨⟨?_, ?_⟩, hother, hnone⟩
  · rintro ⟨g, hg⟩
    by_cases hexists : ∃ m, jac.shape = [m, m]
    · obtain ⟨m, hshape⟩ := hexists
      by_cases hm : m = n
      · rw [hshape, hm]
      · rw [hother m hm hshape] at hg
        cases hg
    · rw [hnone fun m h => hexists ⟨m, h⟩] at hg
      cases hg
  · intro hshape
    obtain ⟨g, hg, -⟩ := exists_shifted hstep mask n jac
    rw [implicitJacobian_of_square regularized hy hJ hshape, Marking.mask_ofMask hn hlength]
    exact ⟨g, hg⟩

/-- The residual of a step can be set up around every vector of the mask's length. -/
theorem exists_implicitResidual (F : Field α) (step : α) (hx : x.shape = [n])
    (hmask : marking.mask n = (.ok mask : Except (Fault α) Mask)) :
    ∃ G, implicitResidual F x step marking = .ok G := by
  have hleading : x.atLeastVector.leading = n := by
    rw [Tensor.atLeastVector_of_shape hx, Tensor.leading_of_shape hx]
  unfold implicitResidual
  split
  · exact ⟨F, rfl⟩
  · simp only [hleading, hmask]
    exact ⟨_, rfl⟩

theorem Total.implicitResidual (hF : Total F [n] [n]) (hstep : (step == 0) = false)
    (hx : x.shape = [n]) (hmask : marking.mask n = (.ok mask : Except (Fault α) Mask)) :
    ∃ G, implicitResidual F x step marking = .ok G ∧ Total G [n] [n] := by
  obtain ⟨G, hG⟩ := exists_implicitResidual F step hx hmask
  refine ⟨G, hG, ?_⟩
  cases hinf : Scalar.isInf step with
  | true =>
      rw [implicitResidual_of_isUnregularized hinf] at hG
      cases hG
      exact hF
  | false =>
      intro y hy
      obtain ⟨value, hvalue, hshape⟩ := hF y hy
      have hzero : dividesByZero step mask n = false := dividesByZero_eq_false hstep mask n
      exact ⟨_, (implicitResidual_value_iff hG hinf hx hmask hy).2
        ⟨value, hvalue, hshape, hzero, rfl⟩, hshape⟩

theorem Total.implicitJacobian (hJ : Total J [n] [n, n]) (hstep : (step == 0) = false)
    (hmask : marking.mask n = (.ok mask : Except (Fault α) Mask)) :
    Total (implicitJacobian J step marking) [n] [n, n] := by
  cases hinf : isUnregularized step with
  | true =>
      rw [implicitJacobian_of_isUnregularized hinf]
      exact hJ
  | false =>
      intro y hy
      obtain ⟨jac, hjac, hshape⟩ := hJ y hy
      obtain ⟨g, hg, hfits⟩ := exists_shifted hstep mask n jac
      rw [implicitJacobian_of_square hinf hy hjac hshape, hmask]
      exact ⟨g, hg, hfits.trans hshape⟩

end Equilibrium
