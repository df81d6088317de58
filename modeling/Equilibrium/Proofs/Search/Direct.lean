import Equilibrium.Proofs.Residual.Magnitude
import Equilibrium.Proofs.Search.Honoured
import Equilibrium.Proofs.Search.Single

/-!
Direct solves.

With an infinite first step there is no pseudo-time left, and the search is one inner solve of the
steady equation itself. What comes back is taken as it is: the distance of the result is the one
that the solver reports, where every other search measures its own. If the solver reports the sup
norm of the residual, that is the stricter of the two, so a direct solve which counts as converged
is within the tolerance by the other measure as well.
-/

namespace Equilibrium

variable {α : Type} [Scalar α] {problem : Problem α} {calls : Nat}

/-! ### The call -/

def Problem.plainJacobian (problem : Problem α) : Option (Field α) :=
  match problem.derivative with
  | .finite => none
  | .analytic => problem.jacobian

/-- The call of a direct solve: the residual itself, from the initial state, to the outer
tolerance. -/
def Problem.directCall (problem : Problem α) : InnerCall α where
  residual := problem.residual
  guess := problem.start
  jacobian := problem.plainJacobian
  method := problem.method
  tol := problem.tol
  maxIterations := max problem.maxIterations 1
  verbose := problem.verbose

theorem Problem.stepJacobian_infinite {step : α} {J : Option (Field α)} {marking : Marking}
    (hstep : isUnregularized step = true)
    (h : stepJacobian problem.jacobian step marking problem.derivative = .ok J) :
    J = problem.plainJacobian := by
  unfold plainJacobian
  generalize problem.derivative = derivative at h ⊢
  generalize problem.jacobian = jacobian at h ⊢
  cases derivative with
  | finite =>
      cases h
      rfl
  | analytic =>
      cases jacobian with
      | none => cases h
      | some K =>
          cases h
          exact congrArg some (implicitJacobian_of_isUnregularized hstep K marking)

/-- In a step of infinite length nothing is left of the step. -/
theorem Problem.implicitCall_direct [Scalar.Lawful α] {call : InnerCall α}
    (h : problem.implicitCall problem.directPlan problem.start Scalar.infinity = .ok call) :
    call = problem.directCall := by
  have hstep : isUnregularized (Scalar.infinity : α) = true := Scalar.Lawful.isInf_infinity
  obtain ⟨G, J, hG, hJ, rfl⟩ := stepCall_eq_ok_iff.1 h
  rw [implicitResidual_of_isUnregularized hstep] at hG
  cases hG
  rw [Problem.stepJacobian_infinite hstep hJ]
  rfl

/-! ### The result -/

/-- The result of a direct solve repeats an answer, and all that counts for success agrees with the
distance that the answer reports. -/
structure Result.Repeats (result : Result α) (tol : α) (answer : InnerAnswer α) : Prop where
  state : result.state = answer.state
  distance : result.distance = answer.distance
  iterations : result.iterations = 1
  converged : result.converged = true ↔ answer.distance ≤ tol
  accepted : result.accepted = 1 ↔ answer.distance ≤ tol
  history : ∃ record, result.history = [record] ∧ (record.accepted = true ↔ answer.distance ≤ tol)

theorem Problem.directOutcome_repeats (problem : Problem α) (answer : Candidate α) :
    (Result.ofOutcome problem ((problem.directProgress answer).outcome problem.tol
      [problem.directRecord answer])).Repeats problem.tol ⟨answer.state, answer.innerDistance⟩ := by
  constructor
  case state => rfl
  case distance => rfl
  case iterations => rfl
  case converged => exact decide_eq_true_iff
  case accepted =>
    simp [Result.ofOutcome, Progress.outcome, directProgress]
  case history => exact ⟨_, rfl, decide_eq_true_iff⟩

/-- A search that asks an inner solver once and repeats its answer. -/
def Backend.SolvesDirectly (backend : Backend α) (calls : Nat) (problem : Problem α)
    (result : Result α) : Prop :=
  let reply := backend.tools.solver.solve calls problem.directCall
  innerExchanges (backend.run calls problem).notices = [(problem.directCall, reply)] ∧
    ∃ answer, reply.outcome = .ok answer ∧ answer.state.shape = problem.start.shape ∧
      result.Repeats problem.tol answer

theorem Backend.solvesDirectly [Scalar.Lawful α] {tools : Toolbox α} {o : Outcome α}
    (infinite : Scalar.isInf problem.step = true)
    (returns : ((Backend.mk .pseudoTransient tools).run calls problem).result = .ok o) :
    (Backend.mk .pseudoTransient tools).SolvesDirectly calls problem (.ofOutcome problem o) := by
  obtain ⟨distance, hdistance, -⟩ := Traced.bind_result_eq_ok_iff.1 returns
  have hrun := run_of_infinite tools calls infinite hdistance
  rw [hrun] at returns
  obtain ⟨candidate, hcandidate, rfl⟩ := Problem.solveDirectly_result_eq_ok_iff.1 returns
  obtain ⟨call, answer, hcall, hanswer, hshape, rfl⟩ :=
    Problem.propose_result_eq_ok_iff.1 hcandidate
  obtain rfl := Problem.implicitCall_direct hcall
  refine ⟨?_, answer, hanswer, hshape, problem.directOutcome_repeats _⟩
  rw [hrun, Problem.solveDirectly, Traced.bind_notices_of_ok hcandidate, innerExchanges_append,
    Problem.innerExchanges_propose hcall]
  exact congrArg (_ :: ·) (Progress.innerExchanges_closing _ _)

/-! ### Two norms -/

namespace Exact

variable {tol d : Exact} {xs : List Exact} {n : ℕ}

/-- A distance that is held against a tolerance is a sup norm: undefined where a component is, or
else infinite there, but then under a finite tolerance only. Left out is infinity as the distance of
an undefined residual under an infinite tolerance: that counts as converged, while the distance that
is measured is undefined and within no tolerance. -/
def IsSupNorm (d : Exact) (xs : List Exact) (tol : Exact) : Prop :=
  d = largestOrUndefined xs ∨ d = supNorm xs ∧ Scalar.isFinite tol = true

theorem IsSupNorm.abs_le (h : d.IsSupNorm xs tol) (hd : d ≤ tol) :
    ∀ x ∈ xs, Scalar.abs x ≤ tol := by
  intro x hx
  obtain rfl | ⟨rfl, hfinite⟩ := h
  · exact le_trans (abs_le_largestOrUndefined (Scalar.isNaN_of_le hd) hx) hd
  · obtain ⟨t, rfl⟩ := isFinite_iff.1 hfinite
    obtain ⟨z, rfl⟩ := isFinite_iff.1 (isFinite_of_supNorm_le hd hx)
    exact le_trans (abs_le_supNorm hx rfl) hd

theorem div_sqrt_le (htol : 0 < tol) (hn : n ≠ 0) : tol / Scalar.sqrt (Scalar.ofNat n) ≤ tol := by
  have hroot : 1 ≤ √(n : ℝ) := Real.one_le_sqrt.2 (Nat.one_le_cast.2 (Nat.one_le_iff_ne_zero.2 hn))
  rw [ofNat_eq, sqrt_finite n.cast_nonneg]
  obtain rfl | ⟨t, ht, rfl⟩ := zero_lt_iff.1 htol
  · rw [infinite_div_finite, if_neg (by linarith)]
    exact .inr rfl
  · rw [finite_div_finite _ _ (by linarith), finite_le_finite]
    exact div_le_self ht.le hroot

end Exact

/-- A direct solve asks once and repeats the answer. If the answer tells a sup norm and counts as
converged, then the distance that any other search would measure is within the tolerance divided by
the root of the number of components. -/
theorem Backend.direct_solve_conservative :
    (∀ {α : Type} [Scalar α] [Scalar.Lawful α] {problem : Problem α} {tools : Toolbox α}
        {calls : Nat} {o : Outcome α},
      Scalar.isInf problem.step = true →
      ((Backend.mk .pseudoTransient tools).run calls problem).result = .ok o →
      (Backend.mk .pseudoTransient tools).SolvesDirectly calls problem (.ofOutcome problem o)) ∧
    ∀ {c : Config Exact} {r : Request Exact} {problem : Problem Exact} {tools : Toolbox Exact}
        {calls : Nat} {o : Outcome Exact},
      Problem.create .pseudoTransient c r = .ok problem → Scalar.isInf problem.step = true →
      ((Backend.mk .pseudoTransient tools).run calls problem).result = .ok o →
      let result := Result.ofOutcome problem o
      ∀ (n : ℕ) value, n ≠ 0 → problem.residual result.state = .ok value → value.shape = [n] →
        result.distance.IsSupNorm value.entries problem.tol → result.converged = true →
        ∃ d, residualDistance problem.residual result.state = .ok d ∧
          d ≤ problem.tol / Scalar.sqrt (Scalar.ofNat n) ∧
          problem.tol / Scalar.sqrt (Scalar.ofNat n) ≤ problem.tol := by
  constructor
  · intro α _ _ problem tools calls o infinite returns
    exact solvesDirectly infinite returns
  · intro c r problem tools calls o created infinite returns result n value hn hvalue hshape hnorm
      hconverged
    have htol : 0 < problem.tol := (Problem.inRange_of_create created).tol
    have wellFormed := Problem.wellFormed_of_create created
    obtain ⟨-, answer, -, hstate, repeats⟩ := solvesDirectly infinite returns
    have hwithin : result.distance ≤ problem.tol :=
      repeats.distance ▸ repeats.converged.1 hconverged
    have hvector : result.state.atLeastVector = result.state := by
      refine Tensor.atLeastVector_of_shape (n := problem.start.leading) ?_
      rw [← wellFormed.start, ← hstate]
      exact congrArg Tensor.shape repeats.state
    rw [← hvector] at hvalue
    obtain ⟨d, hd⟩ := exists_residualDistance_of_shape hvalue hshape (Nat.pos_of_ne_zero hn)
    exact ⟨d, hd, Exact.residualDistance_le hd hvalue hshape (hnorm.abs_le hwithin),
      Exact.div_sqrt_le htol hn⟩

/-! ### A direct solve of the identity -/

noncomputable def Config.direct : Config Exact where
  settings := { Settings.standard with step := Scalar.infinity, tol := .finite 1 }
  valid := Settings.fault?_eq_none_iff.2
    ⟨{ Settings.standard_inRange with step := rfl, tol := one_pos (α := ℝ) }, rfl⟩

noncomputable def Problem.direct : Problem Exact :=
  .assemble .direct .ok (.vector [1, 0]) [true, false] none

theorem Backend.direct_returns :
    ∃ o, ((Backend.mk .pseudoTransient ⟨.resting, fun _ => .divergent⟩).run 0
        .direct).result = .ok o ∧ (Result.ofOutcome .direct o).converged = true ∧
      (Result.ofOutcome .direct o).state = .vector [1, 0] ∧
      (Result.ofOutcome .direct o).distance = .finite 1 := by
  have hdistance : initialDistance .direct = .ok (.finite (1 / 2)) :=
    initialDistance_eq_ok_iff.2 ⟨Exact.residualDistance_unit, rfl⟩
  have proposed : (Problem.direct.propose .resting Problem.direct.directPlan 0 (.vector [1, 0])
      Scalar.infinity).result = .ok ⟨.vector [1, 0], .finite 1⟩ := by
    refine Problem.propose_result_eq_ok_iff.2 ⟨_, ⟨.vector [1, 0], .finite 1⟩,
      stepCall_eq_ok_iff.2 ⟨_, none, implicitResidual_of_isUnregularized rfl _ _ _, rfl, rfl⟩,
      ?_, rfl, rfl⟩
    exact congrArg (fun d => Except.ok (InnerAnswer.mk (.vector [1, 0]) d)) Exact.supNorm_unit
  rw [run_of_infinite _ 0 rfl hdistance]
  refine ⟨_, Problem.solveDirectly_result_eq_ok_iff.2 ⟨_, proposed, rfl⟩, ?_, rfl, rfl⟩
  exact decide_eq_true (le_refl (1 : ℝ))

theorem Backend.direct_solve_of_identity :
    ∃ o, ((Backend.mk .pseudoTransient ⟨.resting, fun _ => .divergent⟩).run 0
        .direct).result = .ok o ∧
      (Backend.mk .pseudoTransient ⟨.resting, fun _ => .divergent⟩).SolvesDirectly 0 .direct
        (.ofOutcome .direct o) ∧
      ∃ d, residualDistance Problem.direct.residual (.vector [1, 0]) = .ok d ∧
        d ≤ .finite 1 / Scalar.sqrt (Scalar.ofNat 2) := by
  obtain ⟨o, returns, hconverged, hstate, hdistance⟩ := direct_returns
  have created : Problem.create .pseudoTransient .direct .constrained = .ok .direct :=
    Problem.create_of_constrained (by decide)
  have hnorm : (Result.ofOutcome .direct o).distance.IsSupNorm [1, 0] Problem.direct.tol := by
    rw [hdistance]
    exact .inr ⟨Exact.supNorm_unit.symm, rfl⟩
  obtain ⟨d, hd, hle, -⟩ := direct_solve_conservative.2 created rfl returns 2
    (.vector [1, 0]) two_ne_zero (congrArg Except.ok hstate) rfl hnorm hconverged
  rw [hstate] at hd
  exact ⟨o, returns, direct_solve_conservative.1 rfl returns, d, hd, hle⟩

end Equilibrium
