import Equilibrium.Proofs.Scalar.Lawful
import Equilibrium.Proofs.Trace
import Equilibrium.Residual.Distance

/-!
Distances.

A distance is a square root divided by a number of components, so it is not below zero unless it is
undefined, whatever the residual is. The distance of a candidate is the same with the undefined case
read as infinity, and then it is never undefined.

What is undefined or infinite about a residual shows in its distance. The squares are added one
after another, none of them is below zero, and so nothing that is added takes an undefined or an
infinite sum back.
-/

namespace Equilibrium

variable {α : Type} [Scalar α] {F : Field α} {y : Tensor α} {distance : α}

theorem scaledNorm_of_lt_length {value : Tensor α} (haxes : 1 < value.shape.length) :
    scaledNorm value.atLeastVector = .error .notVector := by
  rw [Tensor.atLeastVector_of_lt_length haxes, scaledNorm, if_pos haxes]

theorem residualDistance_of_lt_length {value : Tensor α} (hvalue : F y.atLeastVector = .ok value)
    (haxes : 1 < value.shape.length) : residualDistance F y = .error .notVector :=
  except_bind_eq_error_iff.2 (.inr ⟨value, hvalue, scaledNorm_of_lt_length haxes⟩)

/-- Only a residual with components along one axis has a distance. -/
theorem residualDistance_eq_ok_iff :
    residualDistance F y = .ok distance ↔
      ∃ value, F y.atLeastVector = .ok value ∧ value.shape.length ≤ 1 ∧ value.entries ≠ [] ∧
        distance = Scalar.sqrt (sumSquares value.entries) / Scalar.ofNat value.entries.length := by
  rw [residualDistance, except_bind_eq_ok_iff]
  refine exists_congr fun value => and_congr_right fun _ => ?_
  by_cases haxes : value.shape.length ≤ 1
  · rw [Tensor.atLeastVector_of_length_le haxes]
    by_cases hcomponents : value.entries = []
    · simp [scaledNorm, hcomponents]
    · simp [scaledNorm, haxes, hcomponents, eq_comm]
  · rw [scaledNorm_of_lt_length (Nat.lt_of_not_le haxes)]
    exact iff_of_false nofun fun h => haxes h.1

theorem exists_residualDistance_of_ne_nil {value : Tensor α}
    (hvalue : F y.atLeastVector = .ok value) (haxes : value.shape.length ≤ 1)
    (hcomponents : value.entries ≠ []) : ∃ distance, residualDistance F y = .ok distance :=
  ⟨_, residualDistance_eq_ok_iff.2 ⟨value, hvalue, haxes, hcomponents, rfl⟩⟩

theorem exists_residualDistance_of_shape {value : Tensor α} {n : Nat}
    (hvalue : F y.atLeastVector = .ok value) (hshape : value.shape = [n]) (hn : 0 < n) :
    ∃ distance, residualDistance F y = .ok distance := by
  refine exists_residualDistance_of_ne_nil hvalue (by simp [hshape]) (List.ne_nil_of_length_pos ?_)
  rw [value.length_entries, hshape]
  simpa using hn

theorem candidateDistance_eq_ok_iff :
    candidateDistance F y = .ok distance ↔
      ∃ d, residualDistance F y = .ok d ∧ distance = Scalar.orInfinite d := by
  rw [candidateDistance, except_bind_eq_ok_iff]
  constructor
  · rintro ⟨d, hd, h⟩
    cases h
    exact ⟨d, hd, rfl⟩
  · rintro ⟨d, hd, rfl⟩
    exact ⟨d, hd, rfl⟩

/-! ### Undefined and infinite components -/

/-- A number tells what there is among others: it is undefined exactly if one of them is, and if
none is but one is infinite, it is infinity. It is not below zero where it is defined. -/
structure Reflects (d : α) (xs : List α) : Prop where
  isNaN_eq : Scalar.isNaN d = xs.any Scalar.isNaN
  nonneg : Scalar.isNaN d = true ∨ 0 ≤ d
  eq_infinity : xs.any Scalar.isNaN = false → xs.any Scalar.isInf = true → d = Scalar.infinity

section Special

open Scalar

variable [Special α] {d : α} {xs : List α}

theorem isNaN_or_mul_self_nonneg (x : α) : isNaN (x * x) = true ∨ 0 ≤ x * x := by
  cases hx : isNaN x with
  | true => exact .inl ((Special.isNaN_mul_self x).trans hx)
  | false => exact .inr (Special.mul_self_nonneg hx)

/-- One more square tells of one more number. -/
theorem Reflects.add_square (h : Reflects d xs) (x : α) : Reflects (d + x * x) (xs ++ [x]) := by
  have hsum : isNaN (d + x * x) = (isNaN d || isNaN (x * x)) :=
    Special.isNaN_add h.nonneg (isNaN_or_mul_self_nonneg x)
  have hsquare : isNaN (x * x) = isNaN x := Special.isNaN_mul_self x
  constructor
  case isNaN_eq =>
    rw [hsum, hsquare, h.isNaN_eq, List.any_append]
    simp
  case nonneg =>
    cases hdefined : isNaN (d + x * x) with
    | true => exact .inl rfl
    | false =>
        obtain ⟨hd, hx⟩ := Bool.or_eq_false_iff.1 (hsum.symm.trans hdefined)
        exact .inr (Special.add_nonneg (h.nonneg.resolve_left (by simp [hd]))
          (Special.mul_self_nonneg (hsquare.symm.trans hx)))
  case eq_infinity =>
    intro hdefined hinfinite
    obtain ⟨hxs, hx⟩ : xs.any isNaN = false ∧ isNaN x = false := by
      simpa only [List.any_append, Bool.or_eq_false_iff, List.any_cons, List.any_nil,
        Bool.or_false] using hdefined
    have hd : 0 ≤ d := h.nonneg.resolve_left (by simp [h.isNaN_eq, hxs])
    -- Either the sum so far is infinity already, or the new square is.
    obtain hbefore | hnow : xs.any isInf = true ∨ isInf x = true := by
      simpa only [List.any_append, Bool.or_eq_true, List.any_cons, List.any_nil,
        Bool.or_false] using hinfinite
    · rw [h.eq_infinity hxs hbefore]
      exact Special.infinity_add (Special.mul_self_nonneg hx)
    · rw [Special.mul_self_of_isInf hnow]
      exact Special.add_infinity hd

theorem Reflects.foldl_squares (h : Reflects d xs) (ys : List α) :
    Reflects (ys.foldl (fun acc y => acc + y * y) d) (xs ++ ys) := by
  induction ys generalizing d xs with
  | nil => simpa using h
  | cons y ys ih =>
      have hrest := ih (h.add_square y)
      rwa [List.append_assoc] at hrest

variable [Lawful α]

theorem reflects_sumSquares [Ordered α] [Spaced α] (xs : List α) :
    Reflects (sumSquares xs) xs := by
  have hnone : Reflects (0 : α) [] := ⟨isNaN_zero, .inr (le_self isNaN_zero), nofun⟩
  exact hnone.foldl_squares xs

theorem Reflects.sqrt (h : Reflects d xs) : Reflects (sqrt d) xs := by
  refine ⟨(Special.isNaN_sqrt h.nonneg).trans h.isNaN_eq, Lawful.sqrt_nonneg d, ?_⟩
  intro hdefined hinfinite
  rw [h.eq_infinity hdefined hinfinite]
  exact Special.sqrt_infinity

theorem Reflects.div_ofNat {n : Nat} (h : Reflects d xs) (hn : 0 < n)
    (hfinite : isFinite (ofNat n : α) = true) : Reflects (d / ofNat n) xs := by
  refine ⟨(Special.isNaN_div_ofNat d hn hfinite).trans h.isNaN_eq,
    Lawful.div_ofNat_nonneg n h.nonneg, ?_⟩
  intro hdefined hinfinite
  rw [h.eq_infinity hdefined hinfinite]
  exact Special.infinity_div_ofNat hn hfinite

/-- A distance tells what there is among the components of the residual, as long as their number is
not infinite as a divisor. -/
theorem reflects_residualDistance [Ordered α] [Spaced α] {value : Tensor α}
    (h : residualDistance F y = .ok distance) (hvalue : F y.atLeastVector = .ok value)
    (hfinite : isFinite (ofNat value.entries.length : α) = true) :
    Reflects distance value.entries := by
  obtain ⟨value', hvalue', -, hcomponents, rfl⟩ := residualDistance_eq_ok_iff.1 h
  cases hvalue.symm.trans hvalue'
  exact (reflects_sumSquares value.entries).sqrt.div_ofNat (List.length_pos_iff.2 hcomponents)
    hfinite

end Special

/-! ### Signs -/

variable [Scalar.Lawful α]

theorem isNaN_or_residualDistance_nonneg (h : residualDistance F y = .ok distance) :
    Scalar.isNaN distance = true ∨ 0 ≤ distance := by
  obtain ⟨value, -, -, -, rfl⟩ := residualDistance_eq_ok_iff.1 h
  exact Scalar.Lawful.div_ofNat_nonneg _ (Scalar.Lawful.sqrt_nonneg _)

theorem candidateDistance_nonneg (h : candidateDistance F y = .ok distance) :
    Scalar.isNaN distance = false ∧ 0 ≤ distance := by
  obtain ⟨d, hd, rfl⟩ := candidateDistance_eq_ok_iff.1 h
  exact ⟨Scalar.isNaN_orInfinite d,
    Scalar.orInfinite_nonneg (isNaN_or_residualDistance_nonneg hd)⟩

end Equilibrium
