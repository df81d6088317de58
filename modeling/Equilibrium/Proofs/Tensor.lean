import Equilibrium.Proofs.Scalar.Exact
import Equilibrium.Tensor.Spread
import Mathlib.LinearAlgebra.Matrix.Defs

/-!
Real vectors and matrices.

States and Jacobians of exact arithmetic whose entries are real numbers, written as functions of
their indices. A vector that is repeated to fill the slices of an array repeats each of its entries.
-/

namespace Equilibrium

-- The unit of a product of extents is the numeral, whatever else is known about numbers.
attribute [local instance (2000)] One.ofOfNat1

namespace Tensor

variable {α : Type} {n : ℕ}

/-! ### Vectors -/

def real (y : Fin n → ℝ) : Tensor Exact := .vector (List.ofFn fun i => .finite (y i))

variable {y z : Fin n → ℝ}

@[simp] theorem shape_real : (real y).shape = [n] := by simp [real]

@[simp] theorem leading_real : (real y).leading = n := by simp [real]

@[simp] theorem atLeastVector_real : (real y).atLeastVector = real y := rfl

@[simp] theorem getElem?_real (i : Fin n) : (real y).entries[(i : ℕ)]? = some (.finite (y i)) := by
  simp [real]

theorem mapIdx_real {f : ℕ → Exact → Exact} (h : ∀ i : Fin n, f i (.finite (y i)) = .finite (z i)) :
    (real y).mapIdx f = real z := by
  refine ext_iff_entries.2 ⟨by simp, List.ext_getElem (by simp [real]) fun i hi hi' => ?_⟩
  have hlt : i < n := by simpa [real] using hi'
  simpa [real] using h ⟨i, hlt⟩

theorem real_injective (h : real y = real z) : y = z := by
  funext i
  have hi : (real y).entries[(i : ℕ)]? = (real z).entries[(i : ℕ)]? := by rw [h]
  simpa using hi

@[simp] theorem real_inj : real y = real z ↔ y = z := ⟨real_injective, fun h => h ▸ rfl⟩

/-- An array of one axis whose entries are all finite is a vector of real numbers. -/
theorem exists_eq_real {t : Tensor Exact} (hshape : t.shape = [n])
    (hfinite : ∀ a ∈ t.entries, Scalar.isFinite a = true) : ∃ u : Fin n → ℝ, t = real u := by
  have hlength : t.entries.length = n := by rw [t.length_entries, hshape]; simp
  have hentry (i : Fin n) : ∃ x : ℝ, t.entries[(i : ℕ)]? = some (.finite x) := by
    have hi : (i : ℕ) < t.entries.length := by omega
    obtain ⟨x, hx⟩ := Exact.isFinite_iff.1 (hfinite _ (List.getElem_mem hi))
    exact ⟨x, by rw [List.getElem?_eq_getElem hi, hx]⟩
  choose u hu using hentry
  refine ⟨u, ext_iff_entries.2 ⟨by rw [hshape, shape_real], ?_⟩⟩
  refine List.ext_getElem (by simp [real, hlength]) fun i hi _ => ?_
  obtain ⟨_, hentry⟩ := List.getElem?_eq_some_iff.1 (hu ⟨i, by omega⟩)
  simpa [real] using hentry

/-! ### Slices -/

theorem rows_vector (xs : List α) : (vector xs).rows = xs.map scalar := by
  refine List.ext_getElem (by simp [rows]) fun i hi hi' => ?_
  simp only [rows, shape_vector, List.getElem_map, List.getElem_attach, List.getElem_range]
  refine ext_iff_entries.2 ⟨rfl, ?_⟩
  have hlt : i < xs.length := by simpa using hi'
  simp [List.take_one, List.head?_drop, hlt]

theorem repeated_ones (x : α) (shape : List ℕ) :
    repeated (List.replicate shape.length 1) shape [x] = List.replicate shape.prod x := by
  induction shape with
  | nil => rfl
  | cons m shape ih =>
      have hones : (List.replicate shape.length 1).prod = 1 := by simp
      rw [List.length_cons, List.replicate_succ, repeated, hones]
      simp only [List.range_one, List.flatMap_cons, List.flatMap_nil, List.append_nil, zero_mul,
        List.drop_zero, List.take_one, List.head?_cons, Option.toList_some, ih]
      split
      · next h => simp [← h]
      · simp

theorem spread_scalar (x : α) (shape : List ℕ) :
    (scalar x).spread shape = List.replicate shape.prod x := by
  simp [spread, repeated_ones]

/-- The entries of a vector, each repeated to fill a slice of its own. -/
theorem getElem?_flatMap_replicate {m : ℕ} (hm : m ≠ 0) (xs : List α) (k : ℕ) :
    (xs.flatMap (List.replicate m))[k]? = xs[k / m]? := by
  induction xs generalizing k with
  | nil => simp
  | cons x xs ih =>
      rw [List.flatMap_cons, List.getElem?_append, List.length_replicate]
      split
      · next hk => simp [hk, Nat.div_eq_of_lt hk]
      · next hk =>
          rw [ih, Nat.div_eq_sub_div (Nat.pos_of_ne_zero hm) (Nat.le_of_not_lt hk),
            List.getElem?_cons_succ]

/-! ### Matrices -/

def matrix (A : Matrix (Fin n) (Fin n) ℝ) : Tensor Exact where
  shape := [n, n]
  entries := List.ofFn fun k : Fin (n * n) => .finite (A k.divNat k.modNat)
  length_entries := by simp

variable {A B : Matrix (Fin n) (Fin n) ℝ}

@[simp] theorem shape_matrix : (matrix A).shape = [n, n] := rfl

theorem mapIdx_matrix {f : ℕ → Exact → Exact}
    (h : ∀ k : Fin (n * n),
      f k (.finite (A k.divNat k.modNat)) = .finite (B k.divNat k.modNat)) :
    (matrix A).mapIdx f = matrix B := by
  refine ext_iff_entries.2 ⟨rfl, List.ext_getElem (by simp [matrix]) fun k hk hk' => ?_⟩
  have hlt : k < n * n := by simpa [matrix] using hk'
  simpa [matrix] using h ⟨k, hlt⟩

end Tensor

end Equilibrium
