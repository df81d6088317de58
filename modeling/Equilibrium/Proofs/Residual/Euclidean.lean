import Equilibrium.Proofs.Residual.Distance
import Equilibrium.Proofs.Residual.Implicit
import Equilibrium.Proofs.Scalar.Special
import Equilibrium.Proofs.Tensor
import Mathlib.Algebra.BigOperators.Fin
import Mathlib.Algebra.Order.BigOperators.Group.Finset
import Mathlib.Data.Fin.VecNotation
import Mathlib.Data.Fintype.Lattice
import Mathlib.Tactic.Positivity

/-!
How long a residual is.

In exact arithmetic the distance of a residual whose components are real numbers is their Euclidean
length divided by their number. The largest component is no longer than that length, and the length
is no more than the root of their number times the largest component, so the distance lies between
two multiples of the sup norm. Only the sizes of the components count and not their order, and if
none of them grows, neither does the distance.
-/

namespace Equilibrium

variable {n : ℕ} {f g : Fin n → ℝ}

/-! ### Normalized lengths -/

/-- The Euclidean length of some numbers, divided by how many they are. -/
noncomputable def normalizedLength (f : Fin n → ℝ) : ℝ := √(∑ i, f i ^ 2) / n

theorem normalizedLength_nonneg : 0 ≤ normalizedLength f := by
  unfold normalizedLength
  positivity

/-- No component is longer than the whole. -/
theorem abs_div_le_normalizedLength (i : Fin n) : |f i| / n ≤ normalizedLength f := by
  have hsquare : f i ^ 2 ≤ ∑ i, f i ^ 2 :=
    Finset.single_le_sum (fun i _ => sq_nonneg (f i)) (Finset.mem_univ i)
  exact div_le_div_of_nonneg_right (Real.abs_le_sqrt hsquare) n.cast_nonneg

/-- What bounds every component bounds the whole as well, divided by the root of their number. -/
theorem normalizedLength_le {t : ℝ} (hn : 0 < n) (h : ∀ i, |f i| ≤ t) :
    normalizedLength f ≤ t / √n := by
  have hcard : (0 : ℝ) < n := Nat.cast_pos.2 hn
  have hroot : 0 < √(n : ℝ) := Real.sqrt_pos.2 hcard
  have ht : 0 ≤ t := (abs_nonneg (f ⟨0, hn⟩)).trans (h ⟨0, hn⟩)
  have hsquares : ∑ i, f i ^ 2 ≤ n * t ^ 2 := by
    calc ∑ i, f i ^ 2 ≤ ∑ _i : Fin n, t ^ 2 := Finset.sum_le_sum fun i _ => by
          rw [sq_le_sq, abs_of_nonneg ht]
          exact h i
      _ = n * t ^ 2 := by simp
  have hlength : √(∑ i, f i ^ 2) ≤ √n * t := by
    calc √(∑ i, f i ^ 2) ≤ √(n * t ^ 2) := Real.sqrt_le_sqrt hsquares
      _ = √n * t := by rw [Real.sqrt_mul hcard.le, Real.sqrt_sq ht]
  rw [normalizedLength, div_le_div_iff₀ hcard hroot]
  calc √(∑ i, f i ^ 2) * √n ≤ √n * t * √n := mul_le_mul_of_nonneg_right hlength hroot.le
    _ = t * n := by rw [mul_comm √(n : ℝ) t, mul_assoc, Real.mul_self_sqrt hcard.le]

theorem normalizedLength_eq_zero_iff (hn : 0 < n) : normalizedLength f = 0 ↔ ∀ i, f i = 0 := by
  have hcard : (n : ℝ) ≠ 0 := Nat.cast_ne_zero.2 hn.ne'
  have hnonneg : 0 ≤ ∑ i, f i ^ 2 := Finset.sum_nonneg fun i _ => sq_nonneg (f i)
  rw [normalizedLength, div_eq_zero_iff, or_iff_left hcard, Real.sqrt_eq_zero hnonneg,
    Finset.sum_eq_zero_iff_of_nonneg fun i _ => sq_nonneg (f i)]
  simp

/-- The order of the components does not count. -/
theorem normalizedLength_comp (σ : Equiv.Perm (Fin n)) :
    normalizedLength (f ∘ σ) = normalizedLength f := by
  unfold normalizedLength
  rw [← Equiv.sum_comp σ fun i => f i ^ 2]
  rfl

/-- If every component shrinks by a factor, so does the whole. -/
theorem normalizedLength_mul_le {c : ℝ} (hc : 0 ≤ c) (h : ∀ i, |g i| * c ≤ |f i|) :
    normalizedLength g * c ≤ normalizedLength f := by
  have hsquares : (∑ i, g i ^ 2) * c ^ 2 ≤ ∑ i, f i ^ 2 := by
    rw [Finset.sum_mul]
    refine Finset.sum_le_sum fun i _ => ?_
    rw [← mul_pow, sq_le_sq, abs_mul, abs_of_nonneg hc]
    exact h i
  have hlengths : √(∑ i, g i ^ 2) * c ≤ √(∑ i, f i ^ 2) := by
    rw [← Real.sqrt_sq hc, ← Real.sqrt_mul (Finset.sum_nonneg fun i _ => sq_nonneg _)]
    exact Real.sqrt_le_sqrt hsquares
  unfold normalizedLength
  rw [div_mul_eq_mul_div]
  exact div_le_div_of_nonneg_right hlengths n.cast_nonneg

theorem normalizedLength_mono (h : ∀ i, |g i| ≤ |f i|) :
    normalizedLength g ≤ normalizedLength f := by
  simpa using normalizedLength_mul_le zero_le_one fun i => (mul_one |g i|).trans_le (h i)

/-- The normalized length lies between two multiples of the largest size of a component. -/
theorem exists_normalizedLength_bounds (hn : 0 < n) (f : Fin n → ℝ) :
    ∃ m, IsGreatest (Set.range fun i => |f i|) m ∧
      m / n ≤ normalizedLength f ∧ normalizedLength f ≤ m / √n := by
  have : Nonempty (Fin n) := ⟨⟨0, hn⟩⟩
  obtain ⟨i, hi⟩ := Finite.exists_max fun i => |f i|
  exact ⟨|f i|, ⟨⟨i, rfl⟩, Set.forall_mem_range.2 hi⟩, abs_div_le_normalizedLength i,
    normalizedLength_le hn hi⟩

/-! ### Distances -/

namespace Exact

theorem foldl_squares_finite (xs : List ℝ) (acc : ℝ) :
    (xs.map finite).foldl (fun acc x => acc + x * x) (finite acc) =
      finite (acc + (xs.map fun x => x ^ 2).sum) := by
  induction xs generalizing acc with
  | nil => simp
  | cons x xs ih =>
      rw [List.map_cons, List.foldl_cons, finite_mul_finite, finite_add_finite, ih]
      simp only [List.map_cons, List.sum_cons]
      ring_nf

theorem sumSquares_real (v : Fin n → ℝ) :
    sumSquares (Tensor.real v).entries = finite (∑ i, v i ^ 2) := by
  have hentries : (Tensor.real v).entries = (List.ofFn v).map finite := by
    simp [Tensor.real, List.map_ofFn, Function.comp_def]
  rw [hentries, sumSquares, zero_eq, foldl_squares_finite, zero_add, List.map_ofFn, List.sum_ofFn]
  rfl

variable {F : Field Exact} {y : Tensor Exact}

/-- The distance of a residual with real components is their normalized length. -/
theorem residualDistance_real (hn : 0 < n) (hvalue : F y.atLeastVector = .ok (.real f)) :
    residualDistance F y = .ok (.finite (normalizedLength f)) := by
  have hlength : (Tensor.real f).entries.length = n := by simp [Tensor.real]
  have hsum : 0 ≤ ∑ i, f i ^ 2 := Finset.sum_nonneg fun i _ => sq_nonneg (f i)
  refine residualDistance_eq_ok_iff.2 ⟨.real f, hvalue, le_rfl, ?_, ?_⟩
  · exact List.ne_nil_of_length_pos (hlength.symm ▸ hn)
  · rw [hlength, sumSquares_real, sqrt_finite hsum, ofNat_eq,
      finite_div_finite _ _ (Nat.cast_ne_zero.2 hn.ne'), normalizedLength]

end Exact

/-- A residual with components has a distance. In every arithmetic that follows the rules for
infinities and undefined values, the distance tells what there is among the components, as long as
their number is finite there; for doubles every machine word is. In exact arithmetic, where the
components are real numbers, it lies between the largest of their sizes divided by their number and
divided by the root of their number, it is zero exactly if they all are, it does not depend on their
order, and it does not grow unless one of them does. -/
theorem residualDistance_measures :
    (∀ {α : Type} [Scalar α] [Scalar.Lawful α] [Scalar.Ordered α] [Scalar.Spaced α]
        [Scalar.Special α] {F : Field α} {y value : Tensor α} {n : ℕ},
      F y.atLeastVector = .ok value → value.shape = [n] → 0 < n →
      Scalar.isFinite (Scalar.ofNat n : α) = true →
      ∃ d, residualDistance F y = .ok d ∧ Reflects d value.entries) ∧
    (∀ {n : ℕ}, n < 2 ^ 64 → Scalar.isFinite (Scalar.ofNat n : Float) = true) ∧
    ∀ {F : Field Exact} {y : Tensor Exact} {n : ℕ} {f : Fin n → ℝ},
      F y.atLeastVector = .ok (.real f) → 0 < n →
      ∃ d : ℝ, residualDistance F y = .ok (.finite d) ∧ d = √(∑ i, f i ^ 2) / n ∧
        (∃ m, IsGreatest (Set.range fun i => |f i|) m ∧ m / n ≤ d ∧ d ≤ m / √n) ∧
        (d = 0 ↔ ∀ i, f i = 0) ∧
        ∀ {G : Field Exact} {z : Tensor Exact} {g : Fin n → ℝ},
          G z.atLeastVector = .ok (.real g) →
          ((∃ σ : Equiv.Perm (Fin n), g = f ∘ σ) → residualDistance G z = .ok (.finite d)) ∧
          ((∀ i, |g i| ≤ |f i|) → ∃ d', residualDistance G z = .ok (.finite d') ∧ d' ≤ d) := by
  refine ⟨?_, Float.isFinite_ofNat, ?_⟩
  · intro α _ _ _ _ _ F y value n hvalue hshape hn hfinite
    have hlength : value.entries.length = n := by simpa [hshape] using value.length_entries
    obtain ⟨d, hd⟩ := exists_residualDistance_of_shape hvalue hshape hn
    exact ⟨d, hd, reflects_residualDistance hd hvalue (hlength.symm ▸ hfinite)⟩
  · intro F y n f hvalue hn
    refine ⟨normalizedLength f, Exact.residualDistance_real hn hvalue, rfl,
      exists_normalizedLength_bounds hn f, normalizedLength_eq_zero_iff hn, ?_⟩
    intro G z g hvalue'
    have hother : residualDistance G z = .ok (.finite (normalizedLength g)) :=
      Exact.residualDistance_real hn hvalue'
    constructor
    · rintro ⟨σ, rfl⟩
      rw [hother, normalizedLength_comp]
    · intro hsmaller
      exact ⟨normalizedLength g, hother, normalizedLength_mono hsmaller⟩

/-- Of two doubles one may be infinite or undefined; two real numbers may change places, or one of
them may vanish. -/
theorem residualDistance_measures_pairs :
    (∃ d, residualDistance (fun _ => .ok (.vector [(1 : Float), -Scalar.infinity])) (.vector [0]) =
        .ok d ∧ d = Scalar.infinity) ∧
      (∃ d, residualDistance (fun _ => .ok (.vector [(Scalar.infinity : Float), Scalar.undefined]))
        (.vector [0]) = .ok d ∧ Scalar.isNaN d = true) ∧
      ∃ d : ℝ, residualDistance (fun _ => .ok (.real ![3, -4])) (.vector [0]) =
          .ok (.finite d) ∧ 2 ≤ d ∧
        residualDistance (fun _ => .ok (.real ![-4, 3])) (.vector [0]) = .ok (.finite d) ∧
        ∃ d', residualDistance (fun _ => .ok (.real ![3, 0])) (.vector [0]) = .ok (.finite d') ∧
          d' ≤ d := by
  refine ⟨?_, ?_, ?_⟩
  · obtain ⟨d, hd, reflects⟩ := residualDistance_measures.1
      (F := fun _ => .ok (.vector [(1 : Float), -Scalar.infinity])) (y := .vector [0]) rfl rfl
      two_pos (residualDistance_measures.2.1 (by decide))
    exact ⟨d, hd, reflects.eq_infinity (by decide) (by decide)⟩
  · obtain ⟨d, hd, reflects⟩ := residualDistance_measures.1
      (F := fun _ => .ok (.vector [(Scalar.infinity : Float), Scalar.undefined])) (y := .vector [0])
      rfl rfl two_pos (residualDistance_measures.2.1 (by decide))
    exact ⟨d, hd, reflects.isNaN_eq.trans (by decide)⟩
  · obtain ⟨d, hd, -, ⟨m, hm, hlow, -⟩, -, hother⟩ := residualDistance_measures.2.2
      (F := fun _ => .ok (.real ![3, -4])) (y := .vector [0]) (n := 2) rfl two_pos
    have hfour : 4 ≤ m := by simpa using hm.2 (Set.mem_range_self 1)
    have htwo : 2 ≤ d := by
      rw [Nat.cast_ofNat] at hlow
      linarith
    have hswapped : ![(-4 : ℝ), 3] = ![3, -4] ∘ Equiv.swap 0 1 :=
      funext (Fin.forall_fin_two.2 ⟨rfl, rfl⟩)
    have hsmaller : ∀ i, |![(3 : ℝ), 0] i| ≤ |![3, -4] i| :=
      Fin.forall_fin_two.2 ⟨le_rfl, by simp⟩
    exact ⟨d, hd, htwo,
      (hother (G := fun _ => .ok (.real ![-4, 3])) (z := .vector [0]) rfl).1 ⟨_, hswapped⟩,
      (hother (G := fun _ => .ok (.real ![3, 0])) (z := .vector [0]) rfl).2 hsmaller⟩

end Equilibrium
