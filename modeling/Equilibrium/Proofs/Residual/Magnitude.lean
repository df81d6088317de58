import Equilibrium.Proofs.Residual.Euclidean
import Equilibrium.Proofs.Residual.SupNorm

/-!
How large a residual is, in exact arithmetic.

A sum of squares is finite only if every square is, so a state at a finite distance has a residual
of finite components, and it is undefined only if a square is. The largest absolute value bounds
that of every component, and if it is below a finite bound, the components are finite. What bounds
the components bounds the distance, which is smaller by the root of their number.
-/

namespace Equilibrium

namespace Exact

variable {xs : List Exact} {acc x bound d : Exact} {F : Field Exact} {y value : Tensor Exact}

/-! ### Distances -/

theorem isFinite_of_foldl_squares
    (h : Scalar.isFinite (xs.foldl (fun acc x => acc + x * x) acc) = true) :
    Scalar.isFinite acc = true ∧ ∀ x ∈ xs, Scalar.isFinite x = true := by
  induction xs generalizing acc with
  | nil => exact ⟨h, nofun⟩
  | cons x xs ih =>
      obtain ⟨hsum, hrest⟩ := ih h
      obtain ⟨hacc, hsquare⟩ := isFinite_of_add hsum
      refine ⟨hacc, fun z hz => ?_⟩
      obtain rfl | hz := List.mem_cons.1 hz
      · exact isFinite_of_mul_self hsquare
      · exact hrest z hz

/-- At a finite distance every component of the residual is finite. -/
theorem isFinite_of_residualDistance (h : residualDistance F y = .ok d)
    (hd : Scalar.isFinite d = true) (hvalue : F y.atLeastVector = .ok value) :
    ∀ x ∈ value.entries, Scalar.isFinite x = true := by
  obtain ⟨value', hvalue', -, -, rfl⟩ := residualDistance_eq_ok_iff.1 h
  cases hvalue.symm.trans hvalue'
  rw [ofNat_eq] at hd
  exact (isFinite_of_foldl_squares (isFinite_of_sqrt (isFinite_of_div_finite hd))).2

/-- A distance is undefined exactly if a component of the residual is. -/
theorem isNaN_residualDistance (h : residualDistance F y = .ok d)
    (hvalue : F y.atLeastVector = .ok value) :
    Scalar.isNaN d = value.entries.any Scalar.isNaN :=
  (reflects_residualDistance h hvalue rfl).isNaN_eq

/-- What bounds every component bounds the distance as well, divided by the root of their number. -/
theorem residualDistance_le {n : ℕ} (h : residualDistance F y = .ok d)
    (hvalue : F y.atLeastVector = .ok value) (hshape : value.shape = [n])
    (hbound : ∀ x ∈ value.entries, Scalar.abs x ≤ bound) :
    d ≤ bound / Scalar.sqrt (Scalar.ofNat n) := by
  have hundefined : Scalar.isNaN d = false := by
    rw [isNaN_residualDistance h hvalue, List.any_eq_false]
    exact fun x hx => Bool.eq_false_iff.1 (isNaN_of_abs_le (hbound x hx))
  have hlength : value.entries.length = n := by simpa [hshape] using value.length_entries
  have hn : 0 < n := by
    obtain ⟨value', hvalue', -, hcomponents, -⟩ := residualDistance_eq_ok_iff.1 h
    cases hvalue.symm.trans hvalue'
    exact hlength ▸ List.length_pos_iff.2 hcomponents
  have hroot : 0 < √(n : ℝ) := Real.sqrt_pos.2 (Nat.cast_pos.2 hn)
  obtain ⟨x, hx⟩ := List.exists_mem_of_length_pos (hlength ▸ hn)
  have hnonneg : 0 ≤ bound := zero_le_of_abs_le (hbound x hx)
  rw [ofNat_eq, sqrt_finite n.cast_nonneg]
  cases bound with
  | undefined => exact absurd hnonneg (not_le_undefined _)
  | infinite s =>
      obtain rfl : s = false := hnonneg
      rw [infinite_div_finite, if_neg hroot.not_gt]
      exact Scalar.Transitive.le_infinity hundefined
  | finite t =>
      obtain ⟨u, rfl⟩ := Tensor.exists_eq_real hshape fun x hx =>
        isFinite_of_abs_le_finite (hbound x hx)
      rw [residualDistance_real hn hvalue] at h
      cases h
      rw [finite_div_finite _ _ hroot.ne', finite_le_finite]
      refine normalizedLength_le hn fun i => ?_
      exact hbound _ (List.mem_of_getElem? (Tensor.getElem?_real i))

/-! ### Sup norms -/

theorem larger_finite (x y : ℝ) : Scalar.larger (finite x) (finite y) = finite (max x y) := by
  unfold Scalar.larger
  split
  · next h => rw [max_eq_right (le_of_lt h)]
  · next h => rw [max_eq_left (not_lt.1 h)]

/-- The sup norm bounds the absolute value of every defined component. -/
theorem abs_le_supNorm (hx : x ∈ xs) (hdefined : Scalar.isNaN x = false) :
    Scalar.abs x ≤ supNorm xs := by
  unfold supNorm
  split
  · next hall =>
      have hxs : ∀ x ∈ xs, Scalar.isNaN x = false := by
        intro x hx
        obtain ⟨r, rfl⟩ := isFinite_iff.1 (List.all_eq_true.1 hall x hx)
        rfl
      exact (foldl_larger rfl hxs).2.2.2 x hx
  · exact Scalar.Transitive.le_infinity (by rwa [isNaN_abs])

/-- If no component is undefined, the largest absolute value bounds that of every one. -/
theorem abs_le_largestOrUndefined {xs : List Exact}
    (hxs : Scalar.isNaN (largestOrUndefined xs) = false) (hx : x ∈ xs) :
    Scalar.abs x ≤ largestOrUndefined xs := by
  unfold largestOrUndefined at hxs ⊢
  split at hxs
  · cases hxs
  · next hany =>
      rw [if_neg hany]
      have hxs : ∀ x ∈ xs, Scalar.isNaN x = false := fun x hx => by
        simpa using fun h => hany (List.any_eq_true.2 ⟨x, hx, h⟩)
      exact (foldl_larger rfl hxs).2.2.2 x hx

theorem isFinite_of_supNorm_le {t : ℝ} (h : supNorm xs ≤ finite t) (hx : x ∈ xs) :
    Scalar.isFinite x = true := by
  unfold supNorm at h
  split at h
  · next hall => exact List.all_eq_true.1 hall x hx
  · cases (infinite_le_finite t false).1 h

end Exact

end Equilibrium
