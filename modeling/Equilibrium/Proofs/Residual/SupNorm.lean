import Equilibrium.Proofs.Scalar.Lawful
import Equilibrium.Residual.Distance

/-!
Sup norms.

The largest absolute value is looked for from zero upwards, so what is found is zero or one of the
absolute values. Among numbers of which none is undefined it bounds them all, and it is one of them
wherever there is one, since an absolute value that is not above zero is zero itself.
-/

namespace Equilibrium

open Scalar

variable {α : Type} [Scalar α] {xs : List α} {acc x y d : α}

structure IsLargest (d : α) (xs : List α) : Prop where
  attained : ∃ x ∈ xs, d = Scalar.abs x
  bounds : ∀ x ∈ xs, Scalar.abs x ≤ d

theorem supNorm_of_not_finite (h : xs.all isFinite = false) : supNorm xs = infinity :=
  if_neg (by simp [h])

variable [Lawful α] [Ordered α] [Spaced α]

variable [Transitive α] [Sized α]

/-- What is found from a defined value upwards is that value or an absolute value, and it is at or
above all of these. -/
theorem foldl_larger (hacc : isNaN acc = false) (hxs : ∀ x ∈ xs, isNaN x = false) :
    let d := xs.foldl (fun acc x => larger acc (Scalar.abs x)) acc
    isNaN d = false ∧ (d = acc ∨ ∃ x ∈ xs, d = Scalar.abs x) ∧ acc ≤ d ∧
      ∀ x ∈ xs, Scalar.abs x ≤ d := by
  induction xs generalizing acc with
  | nil => exact ⟨hacc, .inl rfl, le_self hacc, nofun⟩
  | cons x xs ih =>
      obtain ⟨hdefined, hleft, hright⟩ :=
        le_larger hacc (isNaN_abs_of_defined (hxs x List.mem_cons_self))
      obtain ⟨hlast, hfound, hle, hbound⟩ :=
        ih hdefined fun z hz => hxs z (List.mem_cons_of_mem _ hz)
      refine ⟨hlast, ?_, Transitive.le_trans hleft hle, fun z hz => ?_⟩
      · obtain hfound | ⟨z, hz, hfound⟩ := hfound
        · have hlarger : larger acc (Scalar.abs x) = acc ∨
              larger acc (Scalar.abs x) = Scalar.abs x := by
            unfold larger
            split
            · exact .inr rfl
            · exact .inl rfl
          obtain hlarger | hlarger := hlarger
          · exact .inl (hfound.trans hlarger)
          · exact .inr ⟨x, List.mem_cons_self, hfound.trans hlarger⟩
        · exact .inr ⟨z, List.mem_cons_of_mem _ hz, hfound⟩
      · obtain rfl | hz := List.mem_cons.1 hz
        · exact Transitive.le_trans hright hle
        · exact hbound z hz

theorem supNorm_of_finite (hfinite : xs.all isFinite = true) :
    isNaN (supNorm xs) = false ∧ (supNorm xs = 0 ∨ ∃ x ∈ xs, supNorm xs = Scalar.abs x) ∧
      0 ≤ supNorm xs ∧ ∀ x ∈ xs, Scalar.abs x ≤ supNorm xs := by
  have hnorm : supNorm xs = xs.foldl (fun acc x => larger acc (Scalar.abs x)) 0 := if_pos hfinite
  rw [hnorm]
  exact foldl_larger isNaN_zero fun x hx => isNaN_of_isFinite (List.all_eq_true.1 hfinite x hx)

/-- The sup norm of finite numbers is the largest absolute value. -/
theorem supNorm_isLargest (hfinite : xs.all isFinite = true) (hne : xs ≠ []) :
    IsLargest (supNorm xs) xs := by
  obtain ⟨-, hfound, -, hbounds⟩ := supNorm_of_finite hfinite
  refine ⟨?_, hbounds⟩
  obtain hzero | hfound := hfound
  · obtain ⟨x, hx⟩ := List.exists_mem_of_ne_nil xs hne
    have hdefined : isNaN x = false := isNaN_of_isFinite (List.all_eq_true.1 hfinite x hx)
    refine ⟨x, hx, hzero.trans ?_⟩
    obtain habs | habs := Sized.abs_eq_zero_or_pos hdefined
    · exact habs.symm
    · -- Nothing above zero is at or below the zero that was found.
      have hle := hbounds x hx
      rw [hzero] at hle
      exact absurd hle (Ordered.not_le_of_lt habs)
  · exact hfound

/-- A sup norm is defined and not below zero. -/
theorem supNorm_nonneg (xs : List α) : isNaN (supNorm xs) = false ∧ 0 ≤ supNorm xs := by
  cases hfinite : xs.all isFinite with
  | false =>
      rw [supNorm_of_not_finite hfinite]
      exact ⟨Lawful.isNaN_infinity, Lawful.zero_le_infinity⟩
  | true =>
      obtain ⟨hdefined, -, hnonneg, -⟩ := supNorm_of_finite hfinite
      exact ⟨hdefined, hnonneg⟩

end Equilibrium
