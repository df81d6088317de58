import Equilibrium.Proofs.Search.Identity
import Equilibrium.Proofs.Search.Positive

/-!
Searches that stall.

Where the settings stall, some search does. The identity has its only zero at zero; from a state
that is farther away than the tolerance, a solver that stays where it is and an integrator that runs
off to infinity both propose what is rejected. The search then goes on with a step of zero, and as
soon as a solver looks at the next step's equation, it meets a division by zero.

So searches advance, whatever they are asked and whoever their collaborators are, exactly if the
settings do not stall.
-/

namespace Equilibrium

variable {α : Type} [Scalar α]

/-! ### Hopeless collaborators -/

/-- A solver that looks at its function once, stays where it is and takes that for no root. -/
def InnerSolver.unsatisfied : InnerSolver α where
  name := "unsatisfied"
  solve _ call := ⟨[], none, do
    let _ ← call.residual call.guess
    return ⟨call.guess, Scalar.undefined⟩⟩

def Integrator.divergent : Integrator α where
  integrate _ call :=
    ⟨[], false, .ok ⟨[call.span.2], [call.start.map fun _ => Scalar.infinity], 0, "", false⟩⟩

def Toolbox.hopeless : Toolbox α := ⟨.unsatisfied, fun _ => .divergent⟩

theorem InnerSolver.unsatisfied_eq_ok_iff {calls : Nat} {call : InnerCall α}
    {answer : InnerAnswer α} :
    (unsatisfied.solve calls call).outcome = .ok answer ↔
      (∃ value, call.residual call.guess = .ok value) ∧
        answer = ⟨call.guess, Scalar.undefined⟩ := by
  simp only [unsatisfied, except_bind_eq_ok_iff]
  constructor
  · rintro ⟨value, hvalue, h⟩
    cases h
    exact ⟨⟨value, hvalue⟩, rfl⟩
  · rintro ⟨⟨value, hvalue⟩, rfl⟩
    exact ⟨value, hvalue, rfl⟩

theorem InnerSolver.unsatisfied_raisesNothing : (unsatisfied : InnerSolver α).RaisesNothing := by
  intro calls call n hguess htotal hjacobian
  obtain ⟨value, hvalue, -⟩ := htotal call.guess hguess
  exact ⟨_, unsatisfied_eq_ok_iff.2 ⟨⟨value, hvalue⟩, rfl⟩, hguess⟩

/-- The unsatisfied solver proposes the committed state. -/
theorem Problem.candidate_of_unsatisfied {problem : Problem α} {plan : InnerPlan α} {calls : Nat}
    {x : Tensor α} {step : α} {candidate : Candidate α}
    (h : (problem.propose .unsatisfied plan calls x step).result = .ok candidate) :
    candidate = ⟨x, Scalar.undefined⟩ := by
  obtain ⟨call, answer, hcall, hanswer, -, rfl⟩ := propose_result_eq_ok_iff.1 h
  obtain ⟨G, J, -, -, rfl⟩ := stepCall_eq_ok_iff.1 hcall
  obtain ⟨-, rfl⟩ := InnerSolver.unsatisfied_eq_ok_iff.1 hanswer
  rfl

/-! ### The identity -/

theorem Problem.identity_returns (c : Config α) (y : α) (strategy : Strategy) :
    (Problem.identity c y).Returns strategy := by
  constructor
  case residual => exact fun y hy => ⟨y, rfl, hy⟩
  case jacobian =>
    intro J hJ _
    cases hJ
    exact fun y _ => ⟨_, rfl, rfl⟩

/-- The equation of an implicit step of size zero cannot be looked at. -/
theorem implicitResidual_zero {F : Field α} {x value step : α} (hstep : (step == 0) = true)
    (hinf : Scalar.isInf step = false) (hF : F (.vector [x]) = .ok (.vector [value])) :
    ∃ G, implicitResidual F (.vector [x]) step (.ofMask [false]) = .ok G ∧
      G (.vector [x]) = .error .divisionByZero := by
  have hmask : (Marking.ofMask [false]).mask (1 : Nat) = (.ok [false] : Except (Fault α) Mask) :=
    Marking.mask_ofMask Nat.one_ne_zero rfl
  have hdivides : dividesByZero step [false] 1 = true := by simp [dividesByZero, hstep, isFixed]
  obtain ⟨G, hG⟩ := exists_implicitResidual F step (Tensor.shape_vector [x]) hmask
  refine ⟨G, hG, ?_⟩
  rw [implicitResidual_apply hG hinf (Tensor.shape_vector [x]) hmask (Tensor.shape_vector [x]), hF]
  change relaxed step [false] [x] [x] (.vector [value]) = _
  rw [relaxed, Tensor.leading_vector, List.length_singleton, if_pos hdivides]

theorem Problem.propose_identity_zero {c : Config α} {y step : α} {plan : InnerPlan α} {calls : Nat}
    (hstep : (step == 0) = true) (hinf : Scalar.isInf step = false) :
    ((identity c y).propose .unsatisfied plan calls (.vector [y]) step).result =
      .error .divisionByZero := by
  obtain ⟨G, hG, hzero⟩ : ∃ G,
      implicitResidual .ok (.vector [y]) step (.ofMask [false]) = .ok G ∧
        G (.vector [y]) = .error .divisionByZero :=
    implicitResidual_zero hstep hinf rfl
  obtain ⟨J, hJ⟩ : ∃ J, stepJacobian (some unitMatrix) step (.ofMask [false]) plan.derivative =
      .ok J := by
    cases plan.derivative with
    | finite => exact ⟨_, rfl⟩
    | analytic => exact ⟨_, rfl⟩
  have hcall := stepCall_eq_ok_iff.2 ⟨G, J, hG, hJ, rfl⟩
  have hasked : (implicitStep .unsatisfied calls .ok (.vector [y]) step (.ofMask [false])
      (some unitMatrix) plan).result = .error .divisionByZero := by
    rw [implicitStep, hcall, Traced.lift_eq, Traced.bind_ok]
    simp only [InnerSolver.ask, InnerSolver.unsatisfied, hzero]
    rfl
  exact Traced.bind_result_of_error hasked

/-! ### Stalling -/

namespace Exact

theorem residualDistance_identity {y : ℝ} (hy : 0 ≤ y) :
    residualDistance .ok (.vector [finite y]) = .ok (finite y) := by
  change Except.ok (Scalar.sqrt ((0 : Exact) + finite y * finite y) / Scalar.ofNat 1) = _
  have hsquare : (0 : Exact) + finite y * finite y = finite (y * y) :=
    congrArg finite (zero_add (y * y))
  have hsqrt : Scalar.sqrt (finite (y * y)) = finite y := by
    change (if y * y < 0 then _ else finite (Real.sqrt (y * y))) = _
    rw [if_neg (mul_self_nonneg y).not_gt, Real.sqrt_mul_self hy]
  rw [hsquare, hsqrt, ofNat_eq, Nat.cast_one, finite_div_finite _ _ one_ne_zero, div_one]

theorem residualDistance_infinity :
    residualDistance .ok (.vector [Scalar.infinity]) = .ok (Scalar.infinity : Exact) := by
  change Except.ok (infinite false / finite ((1 : ℕ) : ℝ)) = Except.ok (infinite false)
  rw [infinite_div_finite, if_neg (Nat.cast_nonneg 1).not_gt]

theorem initialDistance_identity {y : ℝ} (hy : 0 ≤ y) (c : Config Exact) :
    initialDistance (.identity c (finite y)) = .ok (finite y) :=
  initialDistance_eq_ok_iff.2 ⟨residualDistance_identity hy, rfl⟩

theorem candidateDistance_identity {y : ℝ} (hy : 0 ≤ y) :
    candidateDistance .ok (.vector [finite y]) = .ok (finite y) :=
  candidateDistance_eq_ok_iff.2 ⟨_, residualDistance_identity hy, rfl⟩

end Exact

/-- The hopeless collaborators propose what is rejected. -/
theorem Backend.rejects_identity {c : Config Exact} {strategy : Strategy} {loop : Loop Exact}
    {y : ℝ} (hy : 0 ≤ y) {step : Exact} (hstep : (step == 0) = false) (calls : Nat)
    (created : Problem.create strategy c (.identity (.finite y)) = .ok (.identity c (.finite y)))
    (h : (Backend.mk strategy .hopeless).loop? (.identity c (.finite y)) = some loop) :
    ∃ candidate d, (loop.propose calls (.vector [.finite y]) step).result = .ok candidate ∧
      candidateDistance loop.residual candidate.state = .ok d ∧
      loop.commits candidate d = false := by
  obtain ⟨-, -, rfl⟩ | ⟨-, rfl⟩ := loop?_eq_some_iff.1 h
  · obtain ⟨candidate, hcandidate, -⟩ : ∃ candidate,
        ((Problem.identity c (.finite y)).propose .unsatisfied (Problem.innerPlan _) calls
          (.vector [.finite y]) step).result = .ok candidate ∧ _ :=
      Problem.propose_returns (Problem.wellFormed_of_create created)
        (Problem.identity_returns c _ _) InnerSolver.unsatisfied_raisesNothing rfl hstep
    cases Problem.candidate_of_unsatisfied hcandidate
    refine ⟨_, _, hcandidate, Exact.candidateDistance_identity hy, ?_⟩
    -- An undefined inner distance is within no tolerance.
    simp [Loop.commits, Problem.pseudoTransientLoop]
  · refine ⟨⟨.vector [Scalar.infinity], Scalar.undefined⟩, Scalar.infinity,
      Problem.proposeByFlow_result_eq_ok_iff.2 ⟨_, rfl, rfl, rfl⟩,
      candidateDistance_eq_ok_iff.2 ⟨_, Exact.residualDistance_infinity, rfl⟩, rfl⟩

/-- Without a floor, a search above the tolerance goes on with any step that is not below zero. -/
theorem Backend.continues_of_stepMin {backend : Backend Exact} {problem : Problem Exact}
    {loop : Loop Exact} {p : Progress Exact} (h : backend.loop? problem = some loop)
    (hstepMin : problem.stepMin = 0) (hstep : 0 ≤ p.step) (hdistance : problem.tol < p.distance) :
    loop.continues p = true := by
  have hfloor : loop.stepMin = 0 := (stepMin_of_loop? h).trans hstepMin
  have hbelow : loop.tol < p.distance := by rwa [tol_of_loop? h]
  exact Loop.continues_iff.2 ⟨by rwa [hfloor], hbelow⟩

namespace Settings.Stalls

variable {c : Config Exact}

theorem step_eq_finite (stalls : c.settings.Stalls) : ∃ x : ℝ, c.settings.step = .finite x := by
  obtain h | ⟨x, -, h⟩ := Exact.zero_lt_iff.1 c.inRange.step
  · have hfinite := stalls.step
    rw [h] at hfinite
    cases hfinite
  · exact ⟨x, h⟩

/-- A rejection leaves nothing of the first step. -/
theorem step_div_backoff (stalls : c.settings.Stalls) :
    c.settings.step / c.settings.backoff = 0 := by
  obtain ⟨x, h⟩ := stalls.step_eq_finite
  rw [h, stalls.backoff]
  rfl

/-- There is a search that goes on with a step of zero after one rejected iteration. -/
theorem path (stalls : c.settings.Stalls) (strategy : Strategy) (loops : strategy ≠ .relaxation)
    (calls : Nat) :
    ∃ y loop record p,
      Problem.create strategy c (.identity y) = .ok (.identity c y) ∧
      (Backend.mk strategy .hopeless).loop? (.identity c y) = some loop ∧
      initialDistance (.identity c y) = .ok y ∧
      loop.Path calls (.start (.vector [y]) c.settings.step y) [record] p ∧
      loop.continues p = true ∧ p.state = .vector [y] ∧ p.step = 0 := by
  obtain ⟨tol, htol, htolEq⟩ : ∃ x : ℝ, 0 < x ∧ c.settings.tol = .finite x :=
    (Exact.zero_lt_iff.1 c.inRange.tol).resolve_left stalls.tol
  have hy : 0 ≤ tol + 1 := by linarith
  have hdistance : c.settings.tol < .finite (tol + 1) := by
    rw [htolEq, Exact.finite_lt_finite]
    linarith
  have hfinite : Scalar.isFinite c.settings.step = true := by
    obtain ⟨x, h⟩ := stalls.step_eq_finite
    rw [h]
    rfl
  have hstep : (0 : Exact) < c.settings.step := c.inRange.step
  have created := Problem.create_identity strategy hfinite (.finite (tol + 1))
  obtain ⟨loop, hloop⟩ := Backend.exists_loop? ⟨strategy, .hopeless⟩
    (.identity c (.finite (tol + 1))) loops stalls.step
  have hinitial : initialDistance (.identity c (.finite (tol + 1))) = .ok (.finite (tol + 1)) :=
    Exact.initialDistance_identity hy c
  have hlaw : loop.law = (Problem.identity c (.finite (tol + 1))).stepLaw :=
    Backend.law_of_loop? hloop
  have hbackoff : (loop.law.backoff == 0) = false :=
    Exact.beq_zero_eq_false (Exact.zero_lt_of_lt Exact.zero_lt_one
      (Backend.inRange_of_loop? created hloop).backoff)
  have hzero : c.settings.step / loop.law.backoff = 0 := by
    rw [hlaw]
    exact stalls.step_div_backoff
  obtain ⟨candidate, d, proposed, measured, discards⟩ :=
    Backend.rejects_identity hy (Exact.beq_zero_eq_false hstep) calls created hloop
  refine ⟨_, loop, _, _, created, hloop, hinitial, .step ?_
    (.reject candidate d proposed measured discards hbackoff) (.stop _), ?_, rfl, hzero⟩
  · exact Backend.continues_of_stepMin hloop stalls.stepMin (Exact.le_of_lt hstep) hdistance
  · refine Backend.continues_of_stepMin hloop stalls.stepMin ?_ hdistance
    change 0 ≤ c.settings.step / loop.law.backoff
    rw [hzero]
    exact Exact.zero_le_zero

theorem not_positiveSteps (stalls : c.settings.Stalls) (strategy : Strategy)
    (loops : strategy ≠ .relaxation) (calls : Nat) :
    ∃ y, Problem.create strategy c (.identity y) = .ok (.identity c y) ∧
      ¬ (Backend.mk strategy .hopeless).PositiveSteps calls (.identity c y) := by
  obtain ⟨y, loop, record, p, created, hloop, hinitial, path, goes, -, hzero⟩ :=
    stalls.path strategy loops calls
  refine ⟨y, created, fun positive => ?_⟩
  have hstep : 0 < p.step :=
    positive loop y [record] p hloop hinitial path (one_lt_iterationBudget stalls.maxIterations)
      goes
  have hne : (p.step == 0) = false := Exact.beq_zero_eq_false hstep
  rw [hzero] at hne
  exact Bool.noConfusion (hne.symm.trans (decide_eq_true rfl))

/-- Pseudo-transient continuation fails, although nothing fails of itself. -/
theorem divides (stalls : c.settings.Stalls) (calls : Nat) :
    ∃ y, Problem.create .pseudoTransient c (.identity y) = .ok (.identity c y) ∧
      initialDistance (.identity c y) = .ok y ∧
      ((Backend.mk .pseudoTransient .hopeless).run calls (.identity c y)).result =
        .error .divisionByZero := by
  obtain ⟨y, loop, record, p, created, hloop, hinitial, path, goes, hstate, hzero⟩ :=
    stalls.path .pseudoTransient (by decide) calls
  refine ⟨y, created, hinitial, ?_⟩
  have hfails : (loop.iterate calls p).result = .error .divisionByZero := by
    obtain ⟨-, -, rfl⟩ | ⟨hstrategy, -⟩ := Backend.loop?_eq_some_iff.1 hloop
    · refine Traced.bind_result_of_error ?_
      rw [hstate, hzero]
      exact Problem.propose_identity_zero (decide_eq_true rfl) rfl
    · cases hstrategy
  rw [Backend.run_of_loop? hloop, hinitial, Traced.lift_eq, Traced.bind_ok]
  exact Traced.bind_result_of_error
    (Loop.run_result_of_path path (one_lt_iterationBudget stalls.maxIterations) goes hfails)

end Settings.Stalls

/-! ### Two configurations -/

theorem Settings.standard_inRange : (Settings.standard : Settings Exact).InRange := by
  constructor
  case step => exact Exact.zero_lt_one
  case maxIterations => decide
  case innerIterations => decide
  case tol =>
    change (0 : ℝ) < 1e-9
    norm_num
  case innerTol => exact fun tol h => by cases h
  case scale =>
    change (0 : ℝ) < 2.0
    norm_num
  case stepMin =>
    change ¬ (1e-12 : ℝ) < 0
    norm_num
  case stepMax => rfl
  case backoff =>
    change (1 : ℝ) < 10.0
    norm_num
  case flowSteps => decide
  case horizon => rfl

noncomputable def Config.exact : Config Exact where
  settings := .standard
  valid := Settings.fault?_eq_none_iff.2 ⟨Settings.standard_inRange, rfl⟩

noncomputable def Config.stalling : Config Exact where
  settings := { Settings.standard with stepMin := 0, backoff := Scalar.infinity }
  valid := Settings.fault?_eq_none_iff.2
    ⟨{ Settings.standard_inRange with stepMin := lt_irrefl (0 : ℝ), backoff := rfl }, rfl⟩

/-! ### The exact condition -/

/-- Searches advance, whatever they are asked and whoever their collaborators are, exactly if the
settings do not stall. -/
theorem Config.advances_iff {c : Config Exact} {strategy : Strategy}
    (loops : strategy ≠ .relaxation) :
    (∀ r problem tools calls, Problem.create strategy c r = .ok problem →
      Scalar.isInf problem.step = false → (Backend.mk strategy tools).Advances calls problem) ↔
    ¬ c.settings.Stalls := by
  constructor
  · intro advances stalls
    obtain ⟨y, created, hnot⟩ := stalls.not_positiveSteps strategy loops 0
    exact hnot (advances _ _ .hopeless 0 created stalls.step).positive
  · intro moves r problem tools calls created hfinite
    obtain ⟨loop, hloop⟩ := Backend.exists_loop? ⟨strategy, tools⟩ problem loops hfinite
    exact Backend.advances moves created hloop

/-- With the standard configuration a search advances even if its collaborators are hopeless. -/
theorem Config.exact_advances :
    Strategy.pseudoTransient ≠ .relaxation ∧
      (Backend.mk .pseudoTransient .hopeless).Advances 0 (.identity exact (.finite 1)) := by
  refine ⟨by decide, ?_⟩
  have moves : ¬ exact.settings.Stalls := fun stalls => Exact.noConfusion stalls.backoff
  exact (advances_iff (by decide)).2 moves _ _ _ 0 (Problem.create_identity _ rfl _) rfl

/-- With the other one it begins an iteration with a step of zero and fails, although every function
returns and no collaborator raises anything of its own. -/
theorem Config.stalling_divides :
    (∃ y, Problem.create .pseudoTransient stalling (.identity y) = .ok (.identity stalling y) ∧
      ¬ (Backend.mk .pseudoTransient .hopeless).PositiveSteps 0 (.identity stalling y)) ∧
    ∃ y, Problem.create .pseudoTransient stalling (.identity y) = .ok (.identity stalling y) ∧
      initialDistance (.identity stalling y) = .ok y ∧
      (Problem.identity stalling y).Returns .pseudoTransient ∧
      (Backend.mk .pseudoTransient (.hopeless : Toolbox Exact)).RaisesNothing ∧
      ((Backend.mk .pseudoTransient .hopeless).run 0 (.identity stalling y)).result =
        .error .divisionByZero := by
  have stalls : stalling.settings.Stalls :=
    ⟨rfl, rfl, rfl, by decide, fun h => Exact.noConfusion h⟩
  obtain ⟨y, created, hnot⟩ :=
    stalls.not_positiveSteps .pseudoTransient (by decide) 0
  obtain ⟨y', created', hinitial, herror⟩ := stalls.divides 0
  exact ⟨⟨y, created, hnot⟩, y', created', hinitial, Problem.identity_returns _ _ _,
    InnerSolver.unsatisfied_raisesNothing, herror⟩

end Equilibrium
