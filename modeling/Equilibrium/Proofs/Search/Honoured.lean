import Equilibrium.Proofs.Residual.Magnitude
import Equilibrium.Proofs.Search.Committed
import Equilibrium.Proofs.Search.Stalling

/-!
Committed steps solve their equations.

An inner solver reports how far its function is from zero at its answer. If it tells the truth, then
what pseudo-transient continuation commits solves the equation of the step within the inner
tolerance, component by component: an algebraic component satisfies its constraint, and a
differential one the backward Euler equation, or the steady one if the step has grown to infinity.
A rejection keeps the committed state, so once anything has been committed the constraints hold
within the inner tolerance up to the end of the search.

All of this is said in exact arithmetic. A distance that is finite is what makes the components of a
residual finite, and a finite tolerance is what makes those of the states finite; an infinite one
admits states with infinite components, whose differences are undefined.
-/

namespace Equilibrium

/-- A solver reports the sup norm of its function at its answer, or else infinity. -/
def InnerSolver.Measures {α : Type} [Scalar α] (solver : InnerSolver α) : Prop :=
  ∀ calls call answer, (solver.solve calls call).outcome = .ok answer →
    ∃ value, call.residual answer.state = .ok value ∧
      (answer.distance = supNorm value.entries ∨ answer.distance = Scalar.infinity)

/-- The step of length `h` from `x` to `y`, where the residual is `value`, is solved within the
inner tolerance in every component. -/
structure Problem.Honours (problem : Problem Exact) (h : Exact) (x y value : Tensor Exact) :
    Prop where
  residual : problem.residual y = .ok value
  shape : Scalar.isInf h = false → value.shape = y.shape
  algebraic : ∀ (i : Nat) f, problem.mask[i]? = some true → value.entries[i]? = some f →
    Scalar.abs f ≤ problem.innerTol
  steady : Scalar.isInf h = true → ∀ (i : Nat) f, value.entries[i]? = some f →
    Scalar.abs f ≤ problem.innerTol
  /-- A differential component satisfies the backward Euler equation. -/
  differential : Scalar.isInf h = false → ∀ (i : Nat) f a b, problem.mask[i]? = some false →
    value.entries[i]? = some f → x.entries[i]? = some a → y.entries[i]? = some b →
    Scalar.isFinite problem.innerTol = true ∨ Scalar.isFinite a = true ∧ Scalar.isFinite b = true →
    Scalar.abs (b - a - h * f) ≤ h * problem.innerTol

/-! ### One component -/

theorem beq_zero_of_dividesByZero {α : Type} [Scalar α] {step : α} {mask : Mask} {n i : Nat}
    (h : dividesByZero step mask n = false) (hi : i < n) (differential : isFixed mask i = false) :
    (step == 0) = false := by
  cases hstep : step == 0 with
  | false => rfl
  | true =>
      have hany : ((List.range n).any fun i => !isFixed mask i) = true :=
        List.any_eq_true.2 ⟨i, List.mem_range.2 hi, by simp [differential]⟩
      rw [dividesByZero, hstep, hany] at h
      cases h

/-- What bounds the residual of an implicit step bounds how far the step is from being solved. -/
theorem Exact.abs_implicit_le {f a b h : ℝ} {tol : Exact} (hh : 0 < h)
    (within : Scalar.abs (finite f + (finite a - finite b) / finite h) ≤ tol) :
    Scalar.abs (finite b - finite a - finite h * finite f) ≤ finite h * tol := by
  rw [finite_sub_finite, finite_div_finite _ _ hh.ne', finite_add_finite, abs_finite] at within
  rw [finite_sub_finite, finite_mul_finite, finite_sub_finite, abs_finite]
  cases tol with
  | undefined => exact absurd within (not_le_undefined _)
  | infinite s =>
      cases (finite_le_infinite _ s).1 within
      rw [finite_mul_infinite, scaled, if_pos hh]
      exact (finite_le_infinite _ false).2 rfl
  | finite t =>
      have hreal : |f + (a - b) / h| ≤ t := within
      have hscaled : b - a - h * f = -(h * (f + (a - b) / h)) := by
        field_simp
        ring
      rw [finite_mul_finite, finite_le_finite, hscaled, abs_neg, abs_mul, abs_of_pos hh]
      exact mul_le_mul_of_nonneg_left hreal hh.le

/-! ### One iteration -/

namespace Problem

variable {problem : Problem Exact} {solver : InnerSolver Exact} {calls : Nat}
  {p next : Progress Exact} {record : Record Exact} {x y value g : Tensor Exact} {h d : Exact}

/-- A step of infinite length is solved if its residual is small. -/
theorem honours_infinite (hinf : Scalar.isInf h = true) (hvalue : problem.residual y = .ok value)
    (within : ∀ a ∈ value.entries, Scalar.isFinite a = true → Scalar.abs a ≤ problem.innerTol)
    (finite : ∀ a ∈ value.entries, Scalar.isFinite a = true) : problem.Honours h x y value := by
  have hsmall : ∀ (i : Nat) f, value.entries[i]? = some f → Scalar.abs f ≤ problem.innerTol := by
    intro i f hf
    have hmem : f ∈ value.entries := List.mem_of_getElem? hf
    exact within f hmem (finite f hmem)
  exact ⟨hvalue, by simp [hinf], fun i f _ => hsmall i f, fun _ => hsmall, by simp [hinf]⟩

/-- A step of finite length is solved if the residual of its equation is small. -/
theorem honours_finite {G : Field Exact} (wellFormed : problem.WellFormed)
    (hx : x.shape = problem.start.shape) (hy : y.shape = problem.start.shape) (nonneg : 0 ≤ h)
    (hinf : Scalar.isInf h = false)
    (hG : implicitResidual problem.residual x h (.ofMask problem.mask) = .ok G) (hg : G y = .ok g)
    (within : ∀ a ∈ g.entries, Scalar.isFinite a = true → Scalar.abs a ≤ problem.innerTol)
    (bounded : Scalar.isFinite problem.innerTol = true → ∀ a ∈ g.entries, Scalar.isFinite a = true)
    (measured : residualDistance problem.residual y = .ok d) (hd : Scalar.isFinite d = true) :
    ∃ value, problem.Honours h x y value := by
  rw [wellFormed.start] at hx hy
  obtain ⟨value, hvalue, hshape, hzero, rfl⟩ :=
    (implicitResidual_value_iff hG hinf hx wellFormed.marking hy).1 hg
  have hfinite : ∀ f ∈ value.entries, Scalar.isFinite f = true :=
    Exact.isFinite_of_residualDistance measured hd (by rwa [Tensor.atLeastVector_of_shape hy])
  refine ⟨value, hvalue, fun _ => hshape.trans hy.symm, fun i f hi hf => ?_, by simp [hinf],
    fun _ i f a b hi hf ha hb defined => ?_⟩
  · -- The equation of an algebraic component is its constraint.
    refine within f (List.mem_of_getElem? (i := i) ?_) (hfinite f (List.mem_of_getElem? hf))
    simp [List.getElem?_mapIdx, hf, isFixed, hi]
  · have hfixed : isFixed problem.mask i = false := by simp [isFixed, hi]
    have hmem : f + (a - b) / h ∈ (value.mapIdx fun i f =>
        if isFixed problem.mask i then f
        else f + (x.entries.getD i 0 - y.entries.getD i 0) / h).entries := by
      refine List.mem_of_getElem? (i := i) ?_
      simp [List.getElem?_mapIdx, hf, hfixed, ha, hb]
    have hlt : i < problem.start.leading := by
      rw [← wellFormed.mask]
      exact (List.getElem?_eq_some_iff.1 hi).1
    obtain ⟨r, hr, rfl⟩ : ∃ r, 0 < r ∧ h = .finite r := by
      have hpos : 0 < h := Exact.zero_lt_of_le nonneg (beq_zero_of_dividesByZero hzero hlt hfixed)
      obtain rfl | hreal := Exact.zero_lt_iff.1 hpos
      · cases hinf
      · exact hreal
    obtain ⟨f, rfl⟩ := Exact.isFinite_iff.1 (hfinite f (List.mem_of_getElem? hf))
    obtain ⟨ha', hb'⟩ : Scalar.isFinite a = true ∧ Scalar.isFinite b = true := by
      obtain htol | hstates := defined
      · have hsum := bounded htol _ hmem
        exact Exact.isFinite_of_sub (Exact.isFinite_of_div_finite (Exact.isFinite_of_add hsum).2)
      · exact hstates
    obtain ⟨a, rfl⟩ := Exact.isFinite_iff.1 ha'
    obtain ⟨b, rfl⟩ := Exact.isFinite_iff.1 hb'
    refine Exact.abs_implicit_le hr (within _ hmem ?_)
    rw [Exact.finite_sub_finite, Exact.finite_div_finite _ _ hr.ne', Exact.finite_add_finite]
    rfl

/-- Whatever an iteration commits solves the equation of its step. -/
theorem honours_of_step (wellFormed : problem.WellFormed) (measures : solver.Measures)
    (hx : p.state.shape = problem.start.shape) (nonneg : 0 ≤ p.step)
    (first : (problem.pseudoTransientLoop solver).Step calls p next record)
    (accepted : record.accepted = true) :
    ∃ value, problem.Honours record.step p.state next.state value := by
  obtain ⟨candidate, distance, proposed, measured, hstep, -, -, hcommits, hstate, -⟩ :=
    first.settled
  obtain ⟨call, answer, hcall, hanswer, hshape, rfl⟩ := propose_result_eq_ok_iff.1 proposed
  obtain ⟨G, J, hG, -, rfl⟩ := stepCall_eq_ok_iff.1 hcall
  obtain ⟨d, hd, rfl⟩ := candidateDistance_eq_ok_iff.1 measured
  obtain ⟨g, hg, hreported⟩ := measures _ _ _ hanswer
  rw [accepted, Loop.commits, eq_comm, Bool.and_eq_true, Scalar.isFinite_orInfinite] at hcommits
  obtain ⟨hwithin, hfinite⟩ := hcommits
  have hwithin : answer.distance ≤ problem.innerTol := of_decide_eq_true hwithin
  rw [accepted, if_pos rfl] at hstate
  rw [hstep, hstate]
  -- The report bounds the components of the equation's residual, whichever of the two it is.
  have within : ∀ a ∈ g.entries, Scalar.isFinite a = true → Scalar.abs a ≤ problem.innerTol := by
    intro a ha hreal
    obtain ⟨r, rfl⟩ := Exact.isFinite_iff.1 hreal
    refine Exact.le_trans ?_ hwithin
    obtain hreport | hreport := hreported
    · rw [hreport]
      exact Exact.abs_le_supNorm ha rfl
    · rw [hreport]
      exact (Exact.finite_le_infinite |r| false).2 rfl
  have bounded : Scalar.isFinite problem.innerTol = true →
      ∀ a ∈ g.entries, Scalar.isFinite a = true := by
    intro htol a ha
    obtain ⟨t, ht⟩ := Exact.isFinite_iff.1 htol
    rw [ht] at hwithin
    obtain hreport | hreport := hreported
    · rw [hreport] at hwithin
      exact Exact.isFinite_of_supNorm_le hwithin ha
    · rw [hreport] at hwithin
      cases (Exact.infinite_le_finite t false).1 hwithin
  cases hinf : Scalar.isInf p.step with
  | true =>
      rw [implicitResidual_of_isUnregularized hinf] at hG
      cases hG
      have hvector : answer.state.shape = [problem.start.leading] := by
        rw [hshape, hx, wellFormed.start]
      refine ⟨g, honours_infinite hinf hg within ?_⟩
      exact Exact.isFinite_of_residualDistance hd hfinite
        (by rwa [Tensor.atLeastVector_of_shape hvector])
  | false =>
      exact honours_finite wellFormed hx (hshape.trans hx) nonneg hinf hG hg within bounded hd
        hfinite

def Constrained (problem : Problem Exact) (y : Tensor Exact) : Prop :=
  ∃ value, problem.residual y = .ok value ∧ ∀ (i : Nat) f, problem.mask[i]? = some true →
    value.entries[i]? = some f → Scalar.abs f ≤ problem.innerTol

/-- The committed state is like the initial one, and satisfies the constraints if anything has been
committed. -/
structure Settled (problem : Problem Exact) (p : Progress Exact) : Prop where
  shape : p.state.shape = problem.start.shape
  constrained : 0 < p.accepted → problem.Constrained p.state

theorem zero_le_step_of_continues (range : problem.settings.InRange)
    (goes : (problem.pseudoTransientLoop solver).continues p = true) : 0 ≤ p.step := by
  exact Exact.zero_le_of_le range.stepMin (Loop.continues_iff.1 goes).1

theorem Settled.step (settled : problem.Settled p) (wellFormed : problem.WellFormed)
    (range : problem.settings.InRange) (measures : solver.Measures)
    (goes : (problem.pseudoTransientLoop solver).continues p = true)
    (first : (problem.pseudoTransientLoop solver).Step calls p next record) :
    problem.Settled next := by
  have nonneg : 0 ≤ p.step := zero_le_step_of_continues range goes
  have honours := honours_of_step wellFormed measures settled.shape nonneg first
  cases first with
  | accept candidate distance proposed measured commits =>
      obtain ⟨call, answer, -, -, hshape, rfl⟩ := propose_result_eq_ok_iff.1 proposed
      obtain ⟨value, hvalue⟩ := honours rfl
      exact ⟨hshape.trans settled.shape, fun _ => ⟨value, hvalue.residual, hvalue.algebraic⟩⟩
  | reject => exact ⟨settled.shape, settled.constrained⟩

end Problem

/-! ### Searches -/

/-- If the inner solver tells the truth, then every iteration of pseudo-transient continuation that
is committed solves the equation of its step within the inner tolerance, and every other one keeps
the state. Once anything is committed, the constraints hold at the end. -/
theorem Backend.accepted_honours {tools : Toolbox Exact} {c : Config Exact} {r : Request Exact}
    {problem : Problem Exact} {calls : Nat} {o : Outcome Exact}
    (created : Problem.create .pseudoTransient c r = .ok problem)
    (finite : Scalar.isInf problem.step = false) (measures : tools.solver.Measures)
    (returns : ((Backend.mk .pseudoTransient tools).run calls problem).result = .ok o) :
    let result := Result.ofOutcome problem o
    let states := problem.start ::
      (committed ((Backend.mk .pseudoTransient tools).run calls problem).notices).map Prod.fst
    states.length = result.history.length + 1 ∧ states.getLast? = some result.state ∧
    (∀ k (hk : k < result.history.length), ∃ x y, states[k]? = some x ∧ states[k + 1]? = some y ∧
      (result.history[k].accepted = true →
        ∃ value, problem.Honours result.history[k].step x y value) ∧
      (result.history[k].accepted = false → y = x)) ∧
    (0 < result.accepted → problem.Constrained result.state) := by
  have wellFormed : problem.WellFormed := Problem.wellFormed_of_create created
  have range : problem.settings.InRange := Problem.inRange_of_create created
  have hloop := loop?_pseudoTransient tools finite
  obtain ⟨distance, last, records, hdistance, path, hle, hexit, rfl⟩ :=
    (run_result_eq_ok_iff_of_loop? hloop).1 returns
  have told := told_of_path hloop hdistance path hle hexit
  have hsettled : ∀ {records q}, (problem.pseudoTransientLoop tools.solver).Path calls
      (.start problem.start problem.step distance) records q → problem.Settled q := by
    intro records q path
    refine path.invariant (fun hp goes first => hp.step wellFormed range measures goes first) ?_
    exact ⟨rfl, fun h => absurd h (Nat.lt_irrefl 0)⟩
  have hstates : problem.start ::
      (committed ((Backend.mk .pseudoTransient tools).run calls problem).notices).map Prod.fst =
      ((Progress.start problem.start problem.step distance).told ::
        committed ((Backend.mk .pseudoTransient tools).run calls problem).notices).map Prod.fst :=
    rfl
  refine ⟨?_, ?_, fun k hk => ?_, fun haccepted => ?_⟩
  · rw [List.length_cons, List.length_map, told.length]
    rfl
  · rw [hstates, List.getLast?_map, told.ends]
    rfl
  · obtain ⟨q, next, before, goes, first, hbefore, hafter⟩ := told.step k hk
    refine ⟨q.state, next.state, ?_, ?_, fun accepted => ?_, fun rejected => ?_⟩
    · rw [hstates, List.getElem?_map, hbefore]
      rfl
    · rw [hstates, List.getElem?_map, hafter]
      rfl
    · have nonneg : 0 ≤ q.step := Problem.zero_le_step_of_continues range goes
      exact Problem.honours_of_step wellFormed measures (hsettled before).shape nonneg first
        accepted
    · obtain ⟨candidate, d, -, -, -, -, -, -, hstate, -⟩ := first.settled
      have hrecord : records[k].accepted = false := rejected
      rw [hstate, hrecord]
      rfl
  · exact (hsettled path).constrained (Int.natCast_pos.1 haccepted)

/-! ### A trial with a constraint -/

/-- A solver that stays where it is and reports what it finds there. -/
def InnerSolver.resting {α : Type} [Scalar α] : InnerSolver α where
  name := "resting"
  solve _ call := ⟨[], none, do
    let value ← call.residual call.guess
    return ⟨call.guess, supNorm value.entries⟩⟩

theorem InnerSolver.resting_measures {α : Type} [Scalar α] :
    (resting : InnerSolver α).Measures := by
  intro calls call answer h
  obtain ⟨value, hvalue, h⟩ := except_bind_eq_ok_iff.1 h
  cases h
  exact ⟨value, hvalue, .inl rfl⟩

noncomputable def Config.wide : Config Exact where
  settings := { Settings.standard with maxIterations := 0, innerTol := some (.finite 2) }
  valid := Settings.fault?_eq_none_iff.2 ⟨{ Settings.standard_inRange with
    maxIterations := Int.le_refl 0
    innerTol := fun tol h => by
      cases h
      exact two_pos (α := ℝ) }, rfl⟩

noncomputable def Request.constrained : Request Exact where
  residual := .function .ok
  start := .ok (.vector [1, 0])
  marking := .ofMask [true, false]
  jacobian := .absent

noncomputable def Problem.constrained : Problem Exact :=
  .assemble .wide .ok (.vector [1, 0]) [true, false] none

theorem Marking.mask_constrained : (ofMask [true, false]).mask (2 : Nat) =
    (.ok [true, false] : Except (Fault Exact) Mask) :=
  mask_ofMask (by decide) rfl

theorem Problem.create_of_constrained {c : Config Exact} (hderivative : c.derivative ≠ .analytic) :
    create .pseudoTransient c .constrained =
      .ok (.assemble c .ok (.vector [1, 0]) [true, false] none) :=
  create_eq_ok_iff.2 ⟨.ok, none, .vector [1, 0], [true, false], rfl, rfl, rfl, rfl,
    ⟨.vector [1, 0], rfl, rfl⟩, Marking.mask_constrained, fun h => hderivative h.1,
    Strategy.check_pseudoTransient _ _, rfl⟩

theorem Problem.create_constrained :
    create .pseudoTransient .wide .constrained = .ok constrained :=
  create_of_constrained (by decide)

theorem Exact.residualDistance_unit :
    residualDistance .ok (.vector [1, 0]) = .ok (finite (1 / 2)) := by
  have hsquares : sumSquares [(1 : Exact), 0] = finite 1 := by
    simp [sumSquares, zero_eq, one_eq]
  have hsqrt : Scalar.sqrt (finite 1) = finite 1 := by
    change (if (1 : ℝ) < 0 then _ else finite (Real.sqrt 1)) = _
    rw [if_neg (by norm_num), Real.sqrt_one]
  change Except.ok (Scalar.sqrt (sumSquares [(1 : Exact), 0]) / Scalar.ofNat 2) = _
  rw [hsquares, hsqrt, ofNat_eq, finite_div_finite _ _ (by norm_num)]
  norm_num

theorem Exact.supNorm_unit : supNorm [(1 : Exact), 0] = .finite 1 := by
  simp [supNorm, zero_eq, one_eq, larger_finite]

/-- The first unit vector is proposed again, at a distance of one. -/
theorem Problem.propose_constrained (calls : Nat) :
    (constrained.propose .resting constrained.innerPlan calls (.vector [1, 0]) 1).result =
      .ok ⟨.vector [1, 0], .finite 1⟩ := by
  obtain ⟨G, hG⟩ := exists_implicitResidual (x := .vector [1, 0]) (n := 2) .ok (1 : Exact) rfl
    Marking.mask_constrained
  have hzero : dividesByZero (1 : Exact) [true, false] 2 = false :=
    dividesByZero_eq_false (Exact.beq_zero_eq_false Exact.zero_lt_one) _ _
  have hg : G (.vector [1, 0]) = .ok (.vector [.finite 1, .finite 0]) := by
    rw [implicitResidual_value_iff hG rfl rfl Marking.mask_constrained rfl]
    refine ⟨.vector [1, 0], rfl, rfl, hzero, Tensor.ext_iff_entries.2 ⟨rfl, ?_⟩⟩
    simp [isFixed, Exact.zero_eq, Exact.one_eq, Exact.finite_div_finite]
  refine propose_result_eq_ok_iff.2 ⟨_, ⟨.vector [1, 0], .finite 1⟩,
    stepCall_eq_ok_iff.2 ⟨G, none, hG, rfl, rfl⟩, ?_, rfl, rfl⟩
  simp only [InnerSolver.resting, hg]
  exact congrArg (fun d => Except.ok (InnerAnswer.mk (.vector [1, 0]) d))
    Exact.supNorm_unit

theorem Backend.constrained_returns :
    ∃ o, ((Backend.mk .pseudoTransient ⟨.resting, fun _ => .divergent⟩).run 0
        .constrained).result = .ok o ∧ (Result.ofOutcome .constrained o).accepted = 1 := by
  have hdistance : initialDistance .constrained = .ok (.finite (1 / 2)) :=
    initialDistance_eq_ok_iff.2 ⟨Exact.residualDistance_unit, rfl⟩
  have goes : (Problem.constrained.pseudoTransientLoop .resting).continues
      (.start (.vector [1, 0]) 1 (.finite (1 / 2))) = true := by
    have hstep : (Exact.finite 1e-12) ≤ .finite 1 := by
      rw [Exact.finite_le_finite]
      norm_num
    have htol : (Exact.finite 1e-9) < .finite (1 / 2) := by
      rw [Exact.finite_lt_finite]
      norm_num
    exact Loop.continues_iff.2 ⟨hstep, htol⟩
  have commits : (Problem.constrained.pseudoTransientLoop .resting).commits
      ⟨.vector [1, 0], .finite 1⟩ (.finite (1 / 2)) = true := by
    have hwithin : (Exact.finite 1) ≤ .finite 2 := by
      rw [Exact.finite_le_finite]
      norm_num
    exact Bool.and_eq_true_iff.2 ⟨decide_eq_true hwithin, rfl⟩
  have path := Loop.Path.step goes (.accept _ _ (Problem.propose_constrained 0)
    (candidateDistance_eq_ok_iff.2 ⟨_, Exact.residualDistance_unit, rfl⟩) commits) (.stop _)
  exact ⟨_, (run_result_eq_ok_iff_of_loop? (loop?_pseudoTransient _ rfl)).2
    ⟨_, _, _, hdistance, path, Nat.le_refl 1, .inl rfl, rfl⟩, rfl⟩

theorem Backend.constrained_honours :
    ∃ o, ((Backend.mk .pseudoTransient ⟨.resting, fun _ => .divergent⟩).run 0
        .constrained).result = .ok o ∧
      0 < (Result.ofOutcome .constrained o).accepted ∧
      Problem.constrained.Constrained (Result.ofOutcome .constrained o).state := by
  obtain ⟨o, returns, haccepted⟩ := constrained_returns
  have hpos : 0 < (Result.ofOutcome .constrained o).accepted := by rw [haccepted]; exact Int.one_pos
  obtain ⟨-, -, -, hconstrained⟩ := accepted_honours Problem.create_constrained rfl
    InnerSolver.resting_measures returns
  exact ⟨o, returns, hpos, hconstrained hpos⟩

end Equilibrium
