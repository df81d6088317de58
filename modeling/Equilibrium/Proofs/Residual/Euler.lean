import Equilibrium.Proofs.Residual.Implicit
import Equilibrium.Proofs.Tensor
import Mathlib.Tactic.FinCases

/-!
Roots of the residual of an implicit step.

In exact arithmetic the residual of a step says what its name promises: its roots are the implicit
Euler steps from the state that it was set up around, it is the plain residual exactly where no
differential component has moved, and the algebraic components of that state do not enter. A step of
length zero has a value only where there is nothing to divide.
-/

namespace Equilibrium

-- The unit of a product of extents is the numeral, whatever else is known about numbers.
attribute [local instance (2000)] One.ofOfNat1

variable {n : ℕ}

def IsRoot (G : Field Exact) (z : Fin n → ℝ) : Prop := G (.real z) = .ok (.real fun _ : Fin n => 0)

/-- The step of length `h` from `x` to `y`, at the rates `u` that the system has in `y`: the
differential components move at their rates, and the algebraic ones satisfy their constraints. -/
structure IsEulerStep (F : Field Exact) (mask : Mask) (h : ℝ) (x y u : Fin n → ℝ) : Prop where
  rates : F (.real y) = .ok (.real u)
  differential : ∀ i : Fin n, isFixed mask i = false → y i = x i + h * u i
  algebraic : ∀ i : Fin n, isFixed mask i = true → u i = 0

def AgreeDifferential (mask : Mask) (x y : Fin n → ℝ) : Prop :=
  ∀ i : Fin n, isFixed mask i = false → x i = y i

/-- What the residual `G` of a step of length `h` from `x` says about the system `F`. -/
structure IsEulerResidual (F G : Field Exact) (mask : Mask) (h : ℝ) (x : Fin n → ℝ) : Prop where
  isRoot_iff : ∀ y : Fin n → ℝ, IsRoot G y ↔ ∃ u, IsEulerStep F mask h x y u
  eq_iff : ∀ y u : Fin n → ℝ, F (.real y) = .ok (.real u) →
    (G (.real y) = F (.real y) ↔ AgreeDifferential mask y x)
  at_start : ∀ u : Fin n → ℝ, F (.real x) = .ok (.real u) → G (.real x) = F (.real x)

variable {F G : Field Exact} {x x' y u : Fin n → ℝ} {h : ℝ} {marking : Marking} {mask : Mask}

theorem isFixed_of_length_le (hlength : mask.length = n) {k : ℕ} (hk : n ≤ k) :
    isFixed mask k = true := by
  simp [isFixed, List.getElem?_eq_none (hlength.trans_le hk)]

/-! ### Steps that are not zero -/

/-- The residual of a step, at a real vector where the plain one is a real vector. -/
theorem implicitResidual_real (hmask : marking.mask n = (.ok mask : Except (Fault Exact) Mask))
    (hh : h ≠ 0) (hG : implicitResidual F (.real x) (.finite h) marking = .ok G)
    (hF : F (.real y) = .ok (.real u)) :
    G (.real y) =
      .ok (.real fun i => if isFixed mask i then u i else u i + (x i - y i) / h) := by
  rw [implicitResidual_value_iff hG rfl Tensor.shape_real hmask Tensor.shape_real]
  refine ⟨_, hF, Tensor.shape_real, dividesByZero_eq_false (Exact.finite_beq_zero hh) _ _,
    (Tensor.mapIdx_real fun i => ?_).symm⟩
  cases hfixed : isFixed mask i <;>
    simp [List.getD_eq_getElem?_getD, Exact.finite_div_finite _ _ hh]

/-- Where the residual of a step is a real vector, so is the plain one. -/
theorem exists_real_of_implicitResidual
    (hmask : marking.mask n = (.ok mask : Except (Fault Exact) Mask))
    (hG : implicitResidual F (.real x) (.finite h) marking = .ok G) {g : Fin n → ℝ}
    (hg : G (.real y) = .ok (.real g)) : ∃ u : Fin n → ℝ, F (.real y) = .ok (.real u) := by
  obtain ⟨value, hvalue, hshape, -, hmapped⟩ :=
    (implicitResidual_value_iff hG rfl Tensor.shape_real hmask Tensor.shape_real).1 hg
  have hentries := congrArg Tensor.entries hmapped
  have hfinite : ∀ a ∈ value.entries, Scalar.isFinite a = true := by
    intro a ha
    obtain ⟨k, hk, rfl⟩ := List.getElem_of_mem ha
    have hlt : k < n := by simpa [value.length_entries, hshape] using hk
    have hentry : (Tensor.real g).entries[k]? = some (.finite (g ⟨k, hlt⟩)) :=
      Tensor.getElem?_real ⟨k, hlt⟩
    rw [hentries, Tensor.entries_mapIdx, List.getElem?_mapIdx, List.getElem?_eq_getElem hk,
      Option.map_some, Option.some.injEq] at hentry
    split at hentry
    · rw [hentry]
      rfl
    · exact (Exact.isFinite_of_add (Exact.isFinite_iff.2 ⟨_, hentry⟩)).1
  obtain ⟨u, rfl⟩ := Tensor.exists_eq_real hshape hfinite
  exact ⟨u, hvalue⟩

theorem isRoot_iff_isEulerStep (hmask : marking.mask n = (.ok mask : Except (Fault Exact) Mask))
    (hh : h ≠ 0) (hG : implicitResidual F (.real x) (.finite h) marking = .ok G) :
    IsRoot G y ↔ ∃ u, IsEulerStep F mask h x y u := by
  constructor
  · intro root
    obtain ⟨u, hu⟩ := exists_real_of_implicitResidual hmask hG root
    rw [IsRoot, implicitResidual_real hmask hh hG hu, Except.ok.injEq, Tensor.real_inj] at root
    refine ⟨u, hu, fun i hi => ?_, fun i hi => ?_⟩
    · have hzero : u i + (x i - y i) / h = 0 := by simpa [hi] using congrFun root i
      field_simp at hzero
      linarith
    · simpa [hi] using congrFun root i
  · rintro ⟨u, hstep⟩
    rw [IsRoot, implicitResidual_real hmask hh hG hstep.rates, Except.ok.injEq, Tensor.real_inj]
    funext i
    cases hi : isFixed mask i with
    | true => simpa using hstep.algebraic i hi
    | false =>
        have hmoved : (x i - y i) / h = -u i := by
          rw [hstep.differential i hi]
          field_simp
          ring
        simp [hmoved]

theorem implicitResidual_eq_iff (hmask : marking.mask n = (.ok mask : Except (Fault Exact) Mask))
    (hh : h ≠ 0) (hG : implicitResidual F (.real x) (.finite h) marking = .ok G)
    (hF : F (.real y) = .ok (.real u)) :
    G (.real y) = F (.real y) ↔ AgreeDifferential mask y x := by
  rw [implicitResidual_real hmask hh hG hF, hF, Except.ok.injEq, Tensor.real_inj, funext_iff]
  refine forall_congr' fun i => ?_
  cases hi : isFixed mask i with
  | true => simp
  | false => simp [hh, sub_eq_zero, eq_comm]

theorem isEulerResidual (hmask : marking.mask n = (.ok mask : Except (Fault Exact) Mask))
    (hh : h ≠ 0) (hG : implicitResidual F (.real x) (.finite h) marking = .ok G) :
    IsEulerResidual F G mask h x where
  isRoot_iff _ := isRoot_iff_isEulerStep hmask hh hG
  eq_iff _ _ := implicitResidual_eq_iff hmask hh hG
  at_start _ hu := (implicitResidual_eq_iff hmask hh hG hu).2 fun _ _ => rfl

/-! ### The algebraic components of the start -/

theorem getD_real (hlength : mask.length = n) (agree : AgreeDifferential mask x x') {k : ℕ}
    (hk : isFixed mask k = false) :
    (Tensor.real x).entries.getD k 0 = (Tensor.real x').entries.getD k 0 := by
  have hlt : k < n := by
    by_contra hge
    rw [isFixed_of_length_le hlength (by omega)] at hk
    cases hk
  have hentry (z : Fin n → ℝ) : (Tensor.real z).entries[k]? = some (.finite (z ⟨k, hlt⟩)) :=
    Tensor.getElem?_real ⟨k, hlt⟩
  rw [List.getD_eq_getElem?_getD, List.getD_eq_getElem?_getD, hentry, hentry, agree ⟨k, hlt⟩ hk]

/-- The term that a step adds depends on the start in the differential components only. -/
theorem relaxed_entry {fixed : Bool} {a a' : Exact} (h : fixed = false → a = a')
    (f b step : Exact) :
    (if fixed then f else f + (a - b) / step) = if fixed then f else f + (a' - b) / step := by
  cases fixed with
  | true => rfl
  | false => rw [h rfl]

theorem relaxed_real (hlength : mask.length = n) (agree : AgreeDifferential mask x x')
    (step : Exact) (ys : List Exact) (value : Tensor Exact) :
    relaxed step mask (Tensor.real x).entries ys value =
      relaxed step mask (Tensor.real x').entries ys value := by
  have hentry (k : ℕ) (f : Exact) :=
    relaxed_entry (getD_real hlength agree (k := k)) f (ys.getD k 0) step
  simp only [relaxed, hentry]

/-- Also where the state has more axes, and a component of the start fills a slice. -/
theorem relaxedSlices_real (hlength : mask.length = n) (agree : AgreeDifferential mask x x')
    (step : Exact) (y value : Tensor Exact) :
    relaxedSlices step mask (.real x) y value = relaxedSlices step mask (.real x') y value := by
  have hspread (z : Fin n → ℝ) (shape : List ℕ) :
      ((Tensor.real z).rows.flatMap fun row => row.spread shape) =
        (Tensor.real z).entries.flatMap (List.replicate shape.prod) := by
    simp only [Tensor.real, Tensor.rows_vector, List.flatMap_map, Tensor.spread_scalar,
      Tensor.entries_vector]
  have hentry : ∀ size k, isFixed mask (k / size) = false →
      ((Tensor.real x).entries.flatMap (List.replicate size)).getD k 0 =
        ((Tensor.real x').entries.flatMap (List.replicate size)).getD k 0 := by
    intro size k hk
    by_cases hsize : size = 0
    · simp [hsize]
    · have hcomponent := getD_real hlength agree hk
      simp only [List.getD_eq_getElem?_getD, Tensor.getElem?_flatMap_replicate hsize]
        at hcomponent ⊢
      exact hcomponent
  have hmapped (size k : ℕ) (f : Exact) := relaxed_entry (hentry size k) f
    (y.entries.getD k 0) step
  simp only [relaxedSlices, hspread, hmapped, Tensor.shape_real]

/-- The residual of a step is the same around all states with these differential components. -/
theorem implicitResidual_congr (hmask : marking.mask n = (.ok mask : Except (Fault Exact) Mask))
    (agree : AgreeDifferential mask x x') (F : Field Exact) (step : Exact) :
    implicitResidual F (.real x) step marking = implicitResidual F (.real x') step marking := by
  have hlength := Marking.length_of_mask hmask
  simp only [implicitResidual, Tensor.atLeastVector_real, Tensor.leading_real, hmask]
  split
  · rfl
  · change Except.ok _ = Except.ok _
    simp only [relaxed_real hlength agree, relaxedSlices_real hlength agree]

/-! ### A step of length zero -/

theorem dividesByZero_zero_iff : dividesByZero (0 : Exact) mask n = true ↔
    ∃ i : Fin n, isFixed mask i = false := by
  have hzero : ((0 : Exact) == 0) = true := decide_eq_true rfl
  simp [dividesByZero, hzero, Fin.exists_iff]

/-- A step of length zero divides by it if there is a differential component, and says nothing new
if there is none. -/
theorem implicitResidual_of_zero_step
    (hmask : marking.mask n = (.ok mask : Except (Fault Exact) Mask))
    (hG : implicitResidual F (.real x) 0 marking = .ok G) {y value : Tensor Exact}
    (hy : y.shape = [n]) (hF : F y = .ok value) (hshape : value.shape = [n]) :
    ((∃ i : Fin n, isFixed mask i = false) → G y = .error .divisionByZero) ∧
      ((∀ i : Fin n, isFixed mask i = true) → G y = .ok value) := by
  have hrelaxed : G y = relaxed 0 mask (Tensor.real x).entries y.entries value := by
    rw [implicitResidual_apply hG rfl Tensor.shape_real hmask hy, hF]
    exact if_pos hshape
  rw [hrelaxed, relaxed, Tensor.leading_of_shape hshape]
  constructor
  · intro hfree
    rw [if_pos (dividesByZero_zero_iff.2 hfree)]
  · intro hfixed
    have hzero : ¬ dividesByZero (0 : Exact) mask n = true := by
      rw [dividesByZero_zero_iff]
      rintro ⟨i, hi⟩
      exact Bool.noConfusion ((hfixed i).symm.trans hi)
    rw [if_neg hzero, Except.ok.injEq]
    refine Tensor.ext_iff_entries.2 ⟨rfl, List.ext_getElem (by simp) fun k hk hk' => ?_⟩
    have hlt : k < n := by simpa [value.length_entries, hshape] using hk'
    simp [hfixed ⟨k, hlt⟩]

/-! ### Both -/

/-- The residual of a step around a real vector, for every system and every accepted marking. A step
other than zero has one, which is the equation of implicit Euler and the same around all vectors
with these differential components. A step of length zero has one too, and it is divided by as soon
as there is a differential component. -/
theorem implicit_euler (hmask : marking.mask n = (.ok mask : Except (Fault Exact) Mask))
    (F : Field Exact) (x : Fin n → ℝ) :
    (∀ h : ℝ, h ≠ 0 → ∃ G, implicitResidual F (.real x) (.finite h) marking = .ok G ∧
      IsEulerResidual F G mask h x ∧
      ∀ x', AgreeDifferential mask x x' →
        implicitResidual F (.real x') (.finite h) marking = .ok G) ∧
    ∃ G, implicitResidual F (.real x) 0 marking = .ok G ∧
      ∀ y value, y.shape = [n] → F y = .ok value → value.shape = [n] →
        ((∃ i : Fin n, isFixed mask i = false) → G y = .error .divisionByZero) ∧
          ((∀ i : Fin n, isFixed mask i = true) → G y = .ok value) := by
  constructor
  · intro h hh
    obtain ⟨G, hG⟩ := exists_implicitResidual F (.finite h) (Tensor.shape_real (y := x)) hmask
    refine ⟨G, hG, isEulerResidual hmask hh hG, fun x' agree => ?_⟩
    rw [← implicitResidual_congr hmask agree, hG]
  · obtain ⟨G, hG⟩ := exists_implicitResidual F 0 (Tensor.shape_real (y := x)) hmask
    exact ⟨G, hG, fun y value hy hF hshape => implicitResidual_of_zero_step hmask hG hy hF hshape⟩

/-- A step back of length one in a system whose rates are its state, with an algebraic component. -/
theorem implicit_euler_identity :
    (∃ G, implicitResidual .ok (.real ![1, 5]) (.finite (-1)) (.entries (.vector [.index 1])) =
      .ok G ∧ IsRoot G ![1 / 2, 0]) ∧
    ∃ G, implicitResidual .ok (.real ![1, 5]) 0 (.entries (.vector [.index 1])) = .ok G ∧
      G (.real ![1, 5]) = .error .divisionByZero := by
  have hmask : (Marking.entries (.vector [.index 1])).mask 2 =
      (.ok [false, true] : Except (Fault Exact) Mask) := rfl
  obtain ⟨hsteps, G₀, hG₀, hzero⟩ := implicit_euler hmask .ok ![1, 5]
  obtain ⟨G, hG, heuler, -⟩ := hsteps (-1) (by norm_num)
  refine ⟨⟨G, hG, (heuler.isRoot_iff _).2 ⟨![1 / 2, 0], rfl, fun i hi => ?_, fun i hi => ?_⟩⟩,
    G₀, hG₀, (hzero _ _ Tensor.shape_real rfl Tensor.shape_real).1 ⟨0, rfl⟩⟩
  · fin_cases i
    · norm_num
    · cases hi
  · fin_cases i
    · cases hi
    · rfl

end Equilibrium
