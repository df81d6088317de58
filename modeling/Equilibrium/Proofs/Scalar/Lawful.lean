import Equilibrium.Scalar

/-!
Laws of the arithmetic.

The few laws that results about every search rest on. They say what an undefined value does to a
comparison, where signs come from, that defined values are in a row and what goes through a sum of
squares, and nothing of rounding, so they hold of double precision as they hold of exact numbers.
Whatever needs more is said about exact numbers alone.
-/

namespace Equilibrium

namespace Scalar

/-- Numbers whose infinity, undefined value and signs behave. -/
class Lawful (α : Type) [Scalar α] : Prop where
  isInf_infinity : isInf (infinity : α) = true
  isNaN_infinity : isNaN (infinity : α) = false
  zero_le_infinity : (0 : α) ≤ infinity
  not_le_of_isNaN {x : α} (y : α) : isNaN x = true → ¬ x ≤ y
  sqrt_nonneg (x : α) : isNaN (sqrt x) = true ∨ 0 ≤ sqrt x
  div_ofNat_nonneg {x : α} (n : Nat) :
    isNaN x = true ∨ 0 ≤ x → isNaN (x / ofNat n) = true ∨ 0 ≤ x / ofNat n

/-- Numbers whose order is total where they are defined. -/
class Ordered (α : Type) [Scalar α] : Prop where
  isNaN_of_lt {x y : α} : x < y → isNaN y = false
  not_le_of_lt {x y : α} : x < y → ¬ y ≤ x
  le_of_not_lt {x y : α} : isNaN x = false → isNaN y = false → ¬ x < y → y ≤ x
  beq_zero_of_one_lt {x : α} : 1 < x → (x == 0) = false

/-- Numbers that stand in a row with infinity at its end. -/
class Transitive (α : Type) [Scalar α] : Prop where
  le_trans {x y z : α} : x ≤ y → y ≤ z → x ≤ z
  lt_of_le_of_lt {x y z : α} : x ≤ y → y < z → x < z
  le_infinity {x : α} : isNaN x = false → x ≤ infinity

/-- Numbers that differences tell apart, however close they are. -/
class Spaced (α : Type) [Scalar α] : Prop where
  le_of_lt {x y : α} : x < y → x ≤ y
  zero_lt_sub {x y : α} : isFinite x = true → isFinite y = true → x < y → 0 < y - x
  sub_self {x : α} : isFinite x = true → x - x = 0
  zero_lt_ofNat {n : Nat} : 0 < n → (0 : α) < ofNat n

/-- Numbers with a size, and an infinity above all that are finite. -/
class Sized (α : Type) [Scalar α] : Prop where
  abs_eq_zero_or_pos {x : α} : isNaN x = false → abs x = 0 ∨ 0 < abs x
  lt_infinity {x : α} : isFinite x = true → x < infinity

/-- Numbers whose infinity and undefined value follow the rules of floating point in sums of
squares, in square roots and in quotients by whole numbers. -/
class Special (α : Type) [Scalar α] : Prop where
  isNaN_add {x y : α} : isNaN x = true ∨ 0 ≤ x → isNaN y = true ∨ 0 ≤ y →
    isNaN (x + y) = (isNaN x || isNaN y)
  add_nonneg {x y : α} : 0 ≤ x → 0 ≤ y → 0 ≤ x + y
  infinity_add {x : α} : 0 ≤ x → infinity + x = infinity
  add_infinity {x : α} : 0 ≤ x → x + infinity = infinity
  isNaN_mul_self (x : α) : isNaN (x * x) = isNaN x
  mul_self_nonneg {x : α} : isNaN x = false → 0 ≤ x * x
  mul_self_of_isInf {x : α} : isInf x = true → x * x = infinity
  isNaN_sqrt {x : α} : isNaN x = true ∨ 0 ≤ x → isNaN (sqrt x) = isNaN x
  sqrt_infinity : sqrt (infinity : α) = infinity
  isNaN_div_ofNat (x : α) {n : Nat} : 0 < n → isFinite (ofNat n : α) = true →
    isNaN (x / ofNat n) = isNaN x
  infinity_div_ofNat {n : Nat} : 0 < n → isFinite (ofNat n : α) = true →
    (infinity : α) / ofNat n = infinity

variable {α : Type} [Scalar α]

theorem isInf_of_isFinite {x : α} (h : isFinite x = true) : isInf x = false := by
  unfold isFinite at h
  simpa using And.right (Bool.and_eq_true_iff.1 h)

theorem isNaN_of_isFinite {x : α} (h : isFinite x = true) : isNaN x = false := by
  unfold isFinite at h
  simpa using And.left (Bool.and_eq_true_iff.1 h)

theorem orInfinite_of_defined {x : α} (h : isNaN x = false) : orInfinite x = x := by
  simp [orInfinite, h]

/-- A defined number is at or below itself. -/
theorem le_self [Ordered α] [Spaced α] {x : α} (hx : isNaN x = false) : x ≤ x :=
  Ordered.le_of_not_lt hx hx fun h => Ordered.not_le_of_lt h (Spaced.le_of_lt h)

/-- The larger of two defined values is at or above both. -/
theorem le_larger [Ordered α] [Spaced α] {x y : α} (hx : isNaN x = false) (hy : isNaN y = false) :
    isNaN (larger x y) = false ∧ x ≤ larger x y ∧ y ≤ larger x y := by
  unfold larger
  split
  · next hlt => exact ⟨hy, Spaced.le_of_lt hlt, le_self hy⟩
  · next hlt => exact ⟨hx, le_self hx, Ordered.le_of_not_lt hx hy hlt⟩

/-- Of two defined numbers, one that is not at or below the other is above it. -/
theorem lt_of_not_le [Ordered α] {x y : α} (hx : isNaN x = false) (hy : isNaN y = false)
    (h : ¬ x ≤ y) : y < x := by
  by_cases hlt : y < x
  · exact hlt
  · exact absurd (Ordered.le_of_not_lt hy hx hlt) h

variable [Lawful α]

/-- What is at or below something is defined. -/
theorem isNaN_of_le {x y : α} (h : x ≤ y) : isNaN x = false := by
  cases hx : isNaN x with
  | false => rfl
  | true => exact absurd h (Lawful.not_le_of_isNaN y hx)

theorem isNaN_zero : isNaN (0 : α) = false := isNaN_of_le Lawful.zero_le_infinity

/-- The size of a defined number is defined. -/
theorem isNaN_abs_of_defined [Ordered α] [Sized α] {x : α} (hx : isNaN x = false) :
    isNaN (abs x) = false := by
  obtain h | h := Sized.abs_eq_zero_or_pos hx
  · rw [h, isNaN_zero]
  · exact Ordered.isNaN_of_lt h

@[simp] theorem isNaN_orInfinite (x : α) : isNaN (orInfinite x) = false := by
  unfold orInfinite
  split
  · exact Lawful.isNaN_infinity
  · next h => simpa using h

@[simp] theorem isFinite_orInfinite (x : α) : isFinite (orInfinite x) = isFinite x := by
  unfold orInfinite
  split
  · next h => simp [isFinite, h, Lawful.isInf_infinity]
  · rfl

theorem orInfinite_nonneg {x : α} (h : isNaN x = true ∨ 0 ≤ x) : 0 ≤ orInfinite x := by
  unfold orInfinite
  split
  · exact Lawful.zero_le_infinity
  · next hnan => exact h.resolve_left hnan

end Scalar

end Equilibrium
