import Equilibrium.Proofs.Search.Stalling

/-!
Searches from a singular start.

The reciprocal is infinite at zero, and so is the distance there. That is not an undefined distance,
so a search may begin with it, and it ends all measuring: the first candidate that is committed is
infinitely much better than the start, and a step that nothing caps becomes infinite at once. On the
other hand a step that has come to zero meets an infinite distance when it is to grow, and what zero
times infinity is, nobody knows.

The collaborators are blind here. They go by a list of states and look at nothing that they are
given, so a step is never divided by.
-/

namespace Equilibrium

/-! ### Second iterations -/

theorem Settings.Stalls.repeats {c : Config Exact} (stalls : c.settings.Stalls) :
    c.settings.Repeats where
  step := stalls.step
  stepMin := stalls.stepMin ▸ Exact.le_of_lt c.inRange.step
  maxIterations := stalls.maxIterations
  tol := stalls.tol

theorem Settings.Repeats.isFinite_step {c : Config Exact} (repeats : c.settings.Repeats) :
    Scalar.isFinite c.settings.step = true :=
  Exact.isFinite_of_zero_lt c.inRange.step repeats.step

theorem Settings.Repeats.tol_lt_infinity {c : Config Exact} (repeats : c.settings.Repeats) :
    c.settings.tol < Scalar.infinity := by
  obtain ⟨tol, -, htol⟩ := (Exact.zero_lt_iff.1 c.inRange.tol).resolve_left repeats.tol
  rw [htol]
  rfl

/-- Some finite distance is above the tolerance. -/
theorem Settings.Repeats.exists_tol_lt {c : Config Exact} (repeats : c.settings.Repeats) :
    ∃ d : ℝ, c.settings.tol < .finite d := by
  obtain ⟨tol, -, htol⟩ := (Exact.zero_lt_iff.1 c.inRange.tol).resolve_left repeats.tol
  rw [htol]
  exact ⟨tol + 1, lt_add_one tol⟩

theorem Settings.Repeats.stepMin_le_infinity {c : Config Exact} (repeats : c.settings.Repeats) :
    c.settings.stepMin ≤ Scalar.infinity :=
  Exact.le_trans repeats.stepMin (Exact.le_infinity_of_lt c.inRange.step)

/-! ### Blind collaborators -/

section

variable {α : Type} [Scalar α]

/-- A solver that answers with a prepared state and takes it for a root. -/
def InnerSolver.blind (states : Nat → Tensor α) : InnerSolver α where
  name := "blind"
  solve calls _ := ⟨[], none, .ok ⟨states calls, 0⟩⟩

def Integrator.blind (states : Nat → Tensor α) : Integrator α where
  integrate calls call := ⟨[], false, .ok ⟨[call.span.2], [states calls], 0, "", false⟩⟩

def Toolbox.blind (states : Nat → Tensor α) : Toolbox α := ⟨.blind states, fun _ => .blind states⟩

def reciprocal : Field α := fun y => .ok (y.map (1 / ·))

def Request.singular : Request α :=
  ⟨.function reciprocal, .ok (.vector [0]), .absent, .function unitMatrix⟩

def Problem.singular (c : Config α) : Problem α :=
  .assemble c reciprocal (.vector [0]) [false] (some unitMatrix)

theorem Problem.create_singular (strategy : Strategy) (c : Config α)
    (hfinite : Scalar.isFinite c.settings.step = true) :
    Problem.create strategy c .singular = .ok (.singular c) :=
  Problem.create_single strategy hfinite rfl rfl

end

variable {c : Config Exact} {strategy : Strategy} {states : Nat → Tensor Exact} {loop : Loop Exact}
  {calls : Nat} {p : Progress Exact}

/-- Whatever the state and the step, the prepared state is proposed and admitted. -/
theorem Backend.propose_blind {r : Request Exact} {problem : Problem Exact} {x : Tensor Exact}
    (created : Problem.create strategy c r = .ok problem)
    (h : (Backend.mk strategy (.blind states)).loop? problem = some loop)
    (hx : x.shape = problem.start.shape) (hstate : (states calls).shape = problem.start.shape)
    (step : Exact) :
    ∃ candidate, (loop.propose calls x step).result = .ok candidate ∧
      candidate.state = states calls ∧ loop.admits candidate.innerDistance = true := by
  obtain ⟨-, -, rfl⟩ | ⟨-, rfl⟩ := loop?_eq_some_iff.1 h
  · obtain ⟨call, hcall⟩ : ∃ call, problem.implicitCall problem.innerPlan x step = .ok call :=
      Problem.exists_implicitCall (Problem.wellFormed_of_create created) rfl hx
    have hinner : (0 : Exact) < problem.innerTol :=
      (Problem.inRange_of_create created).innerTol _ rfl
    refine ⟨⟨states calls, 0⟩, ?_, rfl, decide_eq_true (Exact.le_of_lt hinner)⟩
    exact Problem.propose_result_eq_ok_iff.2
      ⟨call, ⟨states calls, 0⟩, hcall, rfl, hstate.trans hx.symm, rfl⟩
  · refine ⟨⟨states calls, Scalar.undefined⟩, ?_, rfl, rfl⟩
    exact Problem.proposeByFlow_result_eq_ok_iff.2 ⟨_, rfl, rfl, rfl⟩

section

variable {r : Request Exact} {problem : Problem Exact} {y : Tensor Exact} {d : Exact}
  (created : Problem.create strategy c r = .ok problem)
  (h : (Backend.mk strategy (.blind states)).loop? problem = some loop)
  (hstate : p.state.shape = problem.start.shape)
  (hproposed : states (calls + p.iteration) = y) (hy : y.shape = problem.start.shape)
  (measured : candidateDistance problem.residual y = .ok d)

include created h hstate hproposed hy measured

/-- A prepared state at a finite distance is committed. -/
theorem Backend.commits_blind (finite : Scalar.isFinite d = true) :
    ∃ innerDistance, loop.Step calls p (loop.law.accept p.begun y d)
      ⟨p.iteration + 1, p.step, d, innerDistance, loop.law.compound p.coef p.distance d, true⟩ := by
  obtain ⟨candidate, proposed, hcandidate, hadmits⟩ :=
    propose_blind created h hstate (hproposed ▸ hy) p.step
  rw [hproposed] at hcandidate
  rw [← hcandidate, ← residual_of_loop? h] at measured
  rw [← hcandidate]
  exact ⟨_, .accept candidate d proposed measured (Bool.and_eq_true_iff.2 ⟨hadmits, finite⟩)⟩

/-- Any other is rejected. -/
theorem Backend.rejects_blind (infinite : Scalar.isFinite d = false) :
    ∃ innerDistance, loop.Step calls p
      { p with
        step := p.step / problem.backoff
        coef := 1
        iteration := p.iteration + 1
        rejected := p.rejected + 1 }
      ⟨p.iteration + 1, p.step, d, innerDistance, 1, false⟩ := by
  have hdivides : (loop.law.backoff == 0) = false :=
    Exact.beq_zero_eq_false
      (Exact.zero_lt_of_lt Exact.zero_lt_one (inRange_of_loop? created h).backoff)
  obtain ⟨candidate, proposed, hcandidate, -⟩ :=
    propose_blind created h hstate (hproposed ▸ hy) p.step
  rw [← hproposed, ← hcandidate, ← residual_of_loop? h] at measured
  have discards : loop.commits candidate d = false := by
    rw [Loop.commits, infinite, Bool.and_false]
  have hbackoff : problem.backoff = loop.law.backoff :=
    congrArg (·.backoff) (law_of_loop? h).symm
  rw [hbackoff]
  exact ⟨_, .reject candidate d proposed measured discards hdivides⟩

end

/-! ### Distances -/

namespace Exact

/-- The distance of a state is told by the value of the function there. -/
theorem residualDistance_of_eq {F : Field Exact} {x v : Exact}
    (hF : F (.vector [x]) = .ok (.vector [v])) :
    residualDistance F (.vector [x]) = residualDistance .ok (.vector [v]) := by
  rw [residualDistance, residualDistance, Tensor.atLeastVector_vector, hF]
  rfl

theorem residualDistance_reciprocal_zero :
    residualDistance reciprocal (.vector [0]) = .ok (Scalar.infinity : Exact) := by
  have hvalue : reciprocal (.vector [0]) = .ok (.vector [(Scalar.infinity : Exact)]) := by
    change Except.ok (Tensor.vector [finite 1 / finite 0]) = _
    rw [finite_div_zero, scaled, if_pos one_pos, infinity_eq]
  rw [residualDistance_of_eq hvalue, residualDistance_infinity]

theorem residualDistance_reciprocal_inv {d : ℝ} (hd : 0 < finite d) :
    residualDistance reciprocal (.vector [finite d⁻¹]) = .ok (finite d) := by
  have hd : 0 < d := hd
  have hvalue : reciprocal (.vector [finite d⁻¹]) = .ok (.vector [finite d]) := by
    change Except.ok (Tensor.vector [finite 1 / finite d⁻¹]) = _
    rw [finite_div_finite _ _ (inv_ne_zero hd.ne'), one_div, inv_inv]
  rw [residualDistance_of_eq hvalue, residualDistance_identity hd.le]

end Exact

theorem initialDistance_singular (c : Config Exact) :
    initialDistance (.singular c) = .ok Scalar.infinity :=
  initialDistance_eq_ok_iff.2 ⟨Exact.residualDistance_reciprocal_zero, rfl⟩

/-! ### The law of the step at its ends -/

namespace StepLaw

variable {law : StepLaw Exact} {step coef : Exact} {d : ℝ}

/-- From an infinite distance the step grows to its ceiling at once. -/
theorem grow_infinity (ceiling : 0 < law.ceiling) (hstep : 0 < step) (hcoef : 0 < coef)
    (hd : 0 < Exact.finite d) :
    law.grow step coef Scalar.infinity (.finite d) = law.ceiling := by
  have hd' : ¬ d < 0 := not_lt.2 (le_of_lt (hd : 0 < d))
  rw [grow, Exact.beq_zero_eq_false hd, if_neg Bool.false_ne_true,
    Exact.mul_infinity (Exact.zero_lt_mul hstep hcoef), Exact.infinity_eq,
    Exact.infinite_div_finite, if_neg hd']
  unfold Scalar.capped
  split
  · rfl
  · next hbelow => exact (Exact.eq_infinity_of_not_lt ceiling hbelow).symm

/-- A step of zero has nothing to grow from there. -/
theorem grow_zero_infinity (hd : 0 < Exact.finite d) :
    law.grow 0 coef Scalar.infinity (.finite d) = .undefined := by
  rw [grow, Exact.beq_zero_eq_false hd, if_neg Bool.false_ne_true, Exact.zero_mul_infinity]
  exact if_neg (Exact.not_lt_undefined _)

end StepLaw

/-! ### Iterations -/

variable (h : (Backend.mk strategy (.blind states)).loop? (.singular c) = some loop)

include h

/-- A state at the singularity is rejected. -/
theorem Backend.rejects_singular (hfinite : Scalar.isFinite c.settings.step = true) (calls : Nat)
    (p : Progress Exact) (hstate : p.state.shape = [1])
    (hproposed : states (calls + p.iteration) = .vector [0]) :
    ∃ record, record.accepted = false ∧
      loop.Step calls p
        { p with
          step := p.step / c.settings.backoff
          coef := 1
          iteration := p.iteration + 1
          rejected := p.rejected + 1 } record := by
  have measured : candidateDistance (Problem.singular c).residual (.vector [0]) =
      .ok Scalar.infinity :=
    candidateDistance_eq_ok_iff.2 ⟨_, Exact.residualDistance_reciprocal_zero, rfl⟩
  obtain ⟨innerDistance, hstep⟩ := rejects_blind (Problem.create_singular strategy c hfinite) h
    hstate hproposed rfl measured rfl
  exact ⟨_, rfl, hstep⟩

/-- A state away from it is committed. -/
theorem Backend.commits_singular (hfinite : Scalar.isFinite c.settings.step = true) (calls : Nat)
    (p : Progress Exact) (hstate : p.state.shape = [1]) {d : ℝ} (hd : (0 : Exact) < .finite d)
    (hproposed : states (calls + p.iteration) = .vector [.finite d⁻¹]) :
    ∃ record, loop.Step calls p
      (loop.law.accept p.begun (.vector [.finite d⁻¹]) (.finite d)) record := by
  have measured : candidateDistance (Problem.singular c).residual (.vector [.finite d⁻¹]) =
      .ok (.finite d) :=
    candidateDistance_eq_ok_iff.2 ⟨_, Exact.residualDistance_reciprocal_inv hd, rfl⟩
  obtain ⟨innerDistance, hstep⟩ := commits_blind (Problem.create_singular strategy c hfinite) h
    hstate hproposed rfl measured rfl
  exact ⟨_, hstep⟩

/-- The search comes to a first iteration. -/
theorem Settings.Repeats.begins_first (repeats : c.settings.Repeats) :
    (Backend.mk strategy (.blind states)).Begins 0 (.singular c) loop
      (.start (.vector [0]) c.settings.step Scalar.infinity) :=
  Backend.begins_first h (initialDistance_singular c) c.inRange.maxIterations repeats.stepMin
    repeats.tol_lt_infinity

/-- It comes to a second one where the first one leads on. -/
theorem Settings.Repeats.begins_second (repeats : c.settings.Repeats) {record : Record Exact}
    (first : loop.Step 0 (.start (.vector [0]) c.settings.step Scalar.infinity) p record)
    (goes : loop.continues p = true) :
    (Backend.mk strategy (.blind states)).Begins 0 (.singular c) loop p := by
  obtain ⟨-, -, -, -, -, -, hstart⟩ := repeats.begins_first h
  exact ⟨h, Scalar.infinity, [record], initialDistance_singular c, .step hstart first (.stop p),
    one_lt_iterationBudget repeats.maxIterations, goes⟩

/-- The first state that is committed takes the step to its ceiling. -/
theorem Settings.Repeats.reaches_ceiling (repeats : c.settings.Repeats)
    (floor : c.settings.stepMin ≤ c.settings.stepMax) {d : ℝ} (above : c.settings.tol < .finite d)
    (hproposed : states 0 = .vector [.finite d⁻¹]) :
    ∃ p, (Backend.mk strategy (.blind states)).Begins 0 (.singular c) loop p ∧
      p.step = c.settings.stepMax ∧ p.iteration = 1 ∧ p.state.shape = [1] := by
  have hfinite : Scalar.isFinite c.settings.step = true := repeats.isFinite_step
  have range : loop.InRange :=
    Backend.inRange_of_loop? (Problem.create_singular strategy c hfinite) h
  have hceiling : loop.law.ceiling = c.settings.stepMax :=
    congrArg (·.ceiling) (Backend.law_of_loop? h)
  have hd : (0 : Exact) < .finite d := Exact.zero_lt_of_lt c.inRange.tol above
  obtain ⟨record, first⟩ := Backend.commits_singular h hfinite 0
    (.start (.vector [0]) c.settings.step Scalar.infinity) rfl hd hproposed
  have hstep : (loop.law.accept
      (Progress.start (.vector [0]) c.settings.step Scalar.infinity).begun
      (.vector [.finite d⁻¹]) (.finite d)).step = c.settings.stepMax :=
    (StepLaw.grow_infinity range.ceiling c.inRange.step
      (StepLaw.zero_lt_compound range.scale Exact.zero_lt_one) hd).trans hceiling
  refine ⟨_, repeats.begins_second h first ?_, hstep, rfl, rfl⟩
  rw [Loop.continues_iff, hstep, Backend.stepMin_of_loop? h, Backend.tol_of_loop? h]
  exact ⟨floor, above⟩

/-- With an infinite backoff and no floor the first state that is rejected makes it zero. -/
theorem Settings.Repeats.sinks (repeats : c.settings.Repeats) (floor : c.settings.stepMin = 0)
    (backoff : c.settings.backoff = Scalar.infinity) (hproposed : states 0 = .vector [0]) :
    ∃ p, (Backend.mk strategy (.blind states)).Begins 0 (.singular c) loop p ∧
      p.step = 0 ∧ p.distance = Scalar.infinity ∧ p.iteration = 1 ∧ p.state.shape = [1] := by
  have hfinite : Scalar.isFinite c.settings.step = true := repeats.isFinite_step
  obtain ⟨record, -, first⟩ := Backend.rejects_singular h hfinite 0
    (.start (.vector [0]) c.settings.step Scalar.infinity) rfl hproposed
  have hstep : c.settings.step / c.settings.backoff = 0 := by
    obtain ⟨x, hx⟩ := Exact.isFinite_iff.1 hfinite
    rw [hx, backoff]
    rfl
  refine ⟨_, repeats.begins_second h first ?_, hstep, rfl, rfl, rfl⟩
  rw [Loop.continues_iff, Backend.stepMin_of_loop? h, Backend.tol_of_loop? h]
  refine ⟨?_, repeats.tol_lt_infinity⟩
  change c.settings.stepMin ≤ c.settings.step / c.settings.backoff
  rw [floor, hstep]
  exact Exact.zero_le_zero

end Equilibrium
