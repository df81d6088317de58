import Equilibrium.Proofs.Residual.Distance
import Equilibrium.Proofs.Residual.Implicit
import Equilibrium.Proofs.Search.Backend
import Equilibrium.Proofs.Search.Proposals
import Equilibrium.Proofs.Session

/-!
Searches that return.

A search calls functions and collaborators that may fail. If the functions return and the
collaborators fail only where a function does, then what is left to fail is arithmetic: a division
by a step of zero, by a backoff of zero or by the number of components of an empty state. The last
is excluded by the problem. Where the other two are excluded as well, the search returns.
-/

namespace Equilibrium

variable {α : Type} [Scalar α]

/-! ### Collaborators -/

/-- A solver fails only where a function that it is given does: as long as these return, it answers
with a state like its guess. -/
def InnerSolver.RaisesNothing (solver : InnerSolver α) : Prop :=
  ∀ calls call n, call.guess.shape = [n] → Total call.residual [n] [n] →
    (∀ J, call.jacobian = some J → Total J [n] [n, n]) →
    ∃ answer, (solver.solve calls call).outcome = .ok answer ∧ answer.state.shape = [n]

/-- An integrator fails only where a function that it is given does: as long as these return, it
answers with a trajectory that ends in a state like the one it starts from. -/
def Integrator.RaisesNothing (integrator : Integrator α) : Prop :=
  ∀ calls call n, call.start.shape = [n] → Total call.residual [n] [n] →
    (∀ J, call.jacobian = some J → Total J [n] [n, n]) →
    (∀ event, call.event = some event → ∀ t y, y.shape = [n] → ∃ value, event t y = .ok value) →
    ∃ trajectory y, (integrator.integrate calls call).outcome = .ok trajectory ∧
      trajectory.states.getLast? = some y ∧ y.shape = [n]

/-! ### Distances -/

theorem exists_residualDistance {F : Field α} {y : Tensor α} {n : Nat} (hF : Total F [n] [n])
    (hn : n ≠ 0) (hy : y.shape = [n]) : ∃ distance, residualDistance F y = .ok distance := by
  obtain ⟨value, hvalue, hshape⟩ := hF y hy
  rw [← Tensor.atLeastVector_of_shape hy] at hvalue
  exact exists_residualDistance_of_shape hvalue hshape (Nat.pos_of_ne_zero hn)

theorem exists_candidateDistance {F : Field α} {y : Tensor α} {n : Nat} (hF : Total F [n] [n])
    (hn : n ≠ 0) (hy : y.shape = [n]) : ∃ distance, candidateDistance F y = .ok distance := by
  obtain ⟨distance, h⟩ := exists_residualDistance hF hn hy
  exact ⟨_, candidateDistance_eq_ok_iff.2 ⟨distance, h, rfl⟩⟩

/-! ### Problems -/

structure Problem.WellFormed (problem : Problem α) : Prop where
  start : problem.start.shape = [problem.start.leading]
  nonempty : problem.start.leading ≠ 0
  mask : problem.mask.length = problem.start.leading
  jacobian : problem.derivative = .analytic → problem.jacobian.isSome = true

/-- The functions of a problem return at states like the initial one, the Jacobian where the
strategy makes use of it. -/
structure Problem.Returns (problem : Problem α) (strategy : Strategy) : Prop where
  residual : Total problem.residual [problem.start.leading] [problem.start.leading]
  jacobian : ∀ J, problem.jacobian = some J →
    strategy = .horizons ∨ problem.derivative = .analytic →
    Total J [problem.start.leading] [problem.start.leading, problem.start.leading]

def Backend.RaisesNothing (backend : Backend α) : Prop :=
  match backend.strategy with
  | .pseudoTransient => backend.tools.solver.RaisesNothing
  | .horizons | .relaxation => ∀ method, (backend.tools.integrator method).RaisesNothing

variable {problem : Problem α} {calls : Nat} {x : Tensor α} {step : α}

theorem Problem.wellFormed_of_create {strategy : Strategy} {c : Config α} {r : Request α}
    (h : Problem.create strategy c r = .ok problem) : problem.WellFormed := by
  obtain ⟨F, jacobian, start, mask, -, -, -, hstart, -, hmask, hjacobian, -, rfl⟩ :=
    Problem.create_eq_ok_iff.1 h
  obtain ⟨n, hn, hshape⟩ : ∃ n, n ≠ 0 ∧ start.shape = [n] := by
    unfold checkStart at hstart
    split at hstart
    · next n hshape =>
        split at hstart
        · cases hstart
        · next hn => exact ⟨n, hn, hshape⟩
    · cases hstart
  have hleading : start.leading = n := Tensor.leading_of_shape hshape
  constructor
  case start => rw [Problem.assemble, hleading, hshape]
  case nonempty => rwa [Problem.assemble, hleading]
  case mask => exact Marking.length_of_mask hmask
  case jacobian =>
    intro hanalytic
    cases jacobian with
    | none => exact absurd ⟨hanalytic, rfl⟩ hjacobian
    | some J => rfl

omit [Scalar α] in
/-- The mask of a problem, given again as a marking, is read as itself. -/
theorem Problem.WellFormed.marking (wellFormed : problem.WellFormed) :
    (Marking.ofMask problem.mask).mask problem.start.leading =
      (.ok problem.mask : Except (Fault α) Mask) :=
  Marking.mask_ofMask wellFormed.nonempty wellFormed.mask

/-! ### Proposals -/

theorem NeverDivides.stepJacobian {jacobian : Option (Field α)} {marking : Marking}
    {derivative : Derivative} {J : Option (Field α)} {J' : Field α}
    (hjacobian : ∀ J, jacobian = some J → NeverDivides J) (hstep : (step == 0) = false)
    (h : stepJacobian jacobian step marking derivative = .ok J) (hJ : J = some J') :
    NeverDivides J' := by
  cases derivative with
  | finite =>
      cases h
      cases hJ
  | analytic =>
      cases jacobian with
      | none => cases h
      | some J₀ =>
          cases h
          cases hJ
          exact (hjacobian J₀ rfl).implicitJacobian hstep marking

theorem Problem.stepJacobian_returns (wellFormed : problem.WellFormed)
    (returns : problem.Returns .pseudoTransient) (hstep : (step == 0) = false) :
    ∃ J, stepJacobian problem.jacobian step (.ofMask problem.mask) problem.derivative = .ok J ∧
      ∀ J', J = some J' →
        Total J' [problem.start.leading] [problem.start.leading, problem.start.leading] := by
  cases hderivative : problem.derivative with
  | finite => exact ⟨none, rfl, fun J' h => by cases h⟩
  | analytic =>
      obtain ⟨J, hJ⟩ := Option.isSome_iff_exists.1 (wellFormed.jacobian hderivative)
      have htotal := returns.jacobian J hJ (.inr hderivative)
      rw [hJ]
      refine ⟨some _, rfl, fun J' h => ?_⟩
      cases h
      exact htotal.implicitJacobian hstep wellFormed.marking

/-- The equation of a step can be set up around every state like the initial one. -/
theorem Problem.exists_implicitCall (wellFormed : problem.WellFormed) {plan : InnerPlan α}
    (hderivative : plan.derivative = problem.derivative) (hx : x.shape = problem.start.shape) :
    ∃ call, problem.implicitCall plan x step = .ok call := by
  have hshape : x.shape = [problem.start.leading] := by rw [hx, wellFormed.start]
  obtain ⟨G, hG⟩ := exists_implicitResidual problem.residual step hshape wellFormed.marking
  obtain ⟨J, hJ⟩ : ∃ J, stepJacobian problem.jacobian step (.ofMask problem.mask)
      plan.derivative = .ok J := by
    rw [hderivative]
    cases hanalytic : problem.derivative with
    | finite => exact ⟨none, rfl⟩
    | analytic =>
        obtain ⟨J, hJ⟩ := Option.isSome_iff_exists.1 (wellFormed.jacobian hanalytic)
        rw [hJ]
        exact ⟨_, rfl⟩
  exact ⟨_, stepCall_eq_ok_iff.2 ⟨G, J, hG, hJ, rfl⟩⟩

theorem Problem.propose_returns {solver : InnerSolver α} (wellFormed : problem.WellFormed)
    (returns : problem.Returns .pseudoTransient) (raises : solver.RaisesNothing)
    (hx : x.shape = problem.start.shape) (hstep : (step == 0) = false) :
    ∃ candidate, (problem.propose solver problem.innerPlan calls x step).result = .ok candidate ∧
      candidate.state.shape = problem.start.shape := by
  have hx' : x.shape = [problem.start.leading] := by rw [hx, wellFormed.start]
  obtain ⟨G, hG, htotal⟩ := returns.residual.implicitResidual hstep hx' wellFormed.marking
  obtain ⟨J, hJ, hJtotal⟩ := Problem.stepJacobian_returns wellFormed returns hstep
  obtain ⟨answer, hanswer, hshape⟩ := raises calls ⟨G, x, J, problem.innerPlan.method,
    problem.innerPlan.tol, problem.innerPlan.maxIterations, problem.innerPlan.verbose⟩
    _ hx' htotal hJtotal
  refine ⟨⟨answer.state, answer.distance⟩, ?_, by rw [wellFormed.start]; exact hshape⟩
  refine propose_result_eq_ok_iff.2 ⟨_, answer, ?_, hanswer, by rw [hshape, hx'], rfl⟩
  exact stepCall_eq_ok_iff.2 ⟨G, J, hG, hJ, rfl⟩

theorem Problem.proposeByFlow_returns {integrator : Integrator α} (wellFormed : problem.WellFormed)
    (returns : problem.Returns .horizons) (raises : integrator.RaisesNothing)
    (hx : x.shape = problem.start.shape) :
    ∃ candidate, (problem.proposeByFlow integrator calls x step).result = .ok candidate ∧
      candidate.state.shape = problem.start.shape := by
  have hx' : x.shape = [problem.start.leading] := by rw [hx, wellFormed.start]
  have hevent : ∀ event, (problem.flowCall x step).event = some event →
      ∀ t y, y.shape = [problem.start.leading] → ∃ value, event t y = .ok value := by
    rintro event hevent t y hy
    cases hevent
    obtain ⟨distance, hdistance⟩ := exists_residualDistance returns.residual wellFormed.nonempty hy
    exact ⟨_, except_bind_eq_ok_iff.2 ⟨distance, hdistance, rfl⟩⟩
  obtain ⟨trajectory, y, htrajectory, hy, hshape⟩ := raises calls (problem.flowCall x step) _ hx'
    returns.residual (fun J hJ => returns.jacobian J hJ (.inl rfl)) hevent
  refine ⟨⟨y, Scalar.undefined⟩, ?_, by rw [wellFormed.start]; exact hshape⟩
  exact proposeByFlow_result_eq_ok_iff.2 ⟨trajectory, htrajectory, hy, rfl⟩

/-! ### Searches -/

theorem Backend.propose_returns {backend : Backend α} {loop : Loop α}
    (h : backend.loop? problem = some loop) (wellFormed : problem.WellFormed)
    (returns : problem.Returns backend.strategy) (raises : backend.RaisesNothing)
    (hx : x.shape = problem.start.shape) (hstep : (step == 0) = false) :
    ∃ candidate, (loop.propose calls x step).result = .ok candidate ∧
      candidate.state.shape = problem.start.shape := by
  obtain ⟨hstrategy, -, rfl⟩ | ⟨hstrategy, rfl⟩ := loop?_eq_some_iff.1 h
  · rw [hstrategy] at returns
    rw [RaisesNothing, hstrategy] at raises
    exact Problem.propose_returns wellFormed returns raises hx hstep
  · rw [hstrategy] at returns
    rw [RaisesNothing, hstrategy] at raises
    exact Problem.proposeByFlow_returns wellFormed returns (raises problem.flow) hx

theorem Backend.shape_of_proposed {backend : Backend α} {loop : Loop α} {candidate : Candidate α}
    (h : backend.loop? problem = some loop) (wellFormed : problem.WellFormed)
    (returns : problem.Returns backend.strategy) (raises : backend.RaisesNothing)
    (hx : x.shape = problem.start.shape)
    (proposed : (loop.propose calls x step).result = .ok candidate) :
    candidate.state.shape = problem.start.shape := by
  obtain ⟨hstrategy, -, rfl⟩ | ⟨hstrategy, rfl⟩ := loop?_eq_some_iff.1 h
  · obtain ⟨call, answer, -, -, hshape, rfl⟩ := Problem.propose_result_eq_ok_iff.1 proposed
    rw [← hx]
    exact hshape
  · rw [hstrategy] at returns
    rw [RaisesNothing, hstrategy] at raises
    obtain ⟨candidate', hcandidate, hshape⟩ : ∃ candidate',
        (problem.proposeByFlow (backend.tools.integrator problem.flow) calls x step).result =
          .ok candidate' ∧ candidate'.state.shape = problem.start.shape :=
      Problem.proposeByFlow_returns wellFormed returns (raises problem.flow) hx
    cases proposed.symm.trans hcandidate
    exact hshape

/-- Where nothing but the search itself could fail and no iteration begins with a step of zero, the
search returns. -/
theorem Backend.run_returns {backend : Backend α} {loop : Loop α} {distance : α}
    (h : backend.loop? problem = some loop) (wellFormed : problem.WellFormed)
    (returns : problem.Returns backend.strategy) (raises : backend.RaisesNothing)
    (hbackoff : (problem.backoff == 0) = false) (hdistance : initialDistance problem = .ok distance)
    (hstep : ∀ {records q},
      loop.Path calls (.start problem.start problem.step distance) records q →
      records.length < iterationBudget problem.maxIterations → loop.continues q = true →
      (q.step == 0) = false) :
    ∃ o, (backend.run calls problem).result = .ok o := by
  -- Every committed state has the shape of the initial one, so functions and collaborators are only
  -- asked where they promise to answer.
  have hshape : ∀ {records q},
      loop.Path calls (.start problem.start problem.step distance) records q →
      q.state.shape = problem.start.shape := by
    intro records q path
    refine path.invariant (I := fun q => q.state.shape = problem.start.shape) ?_ rfl
    intro p next record hp _ hnext
    obtain ⟨candidate, d, proposed, -, -, -, -, -, hstate, -⟩ := hnext.settled
    rw [hstate]
    split
    · exact shape_of_proposed h wellFormed returns raises hp proposed
    · exact hp
  -- What an iteration needs is then there: a candidate, its distance and a backoff to divide by.
  have hcompletes : ∀ {records q},
      loop.Path calls (.start problem.start problem.step distance) records q →
      records.length < iterationBudget problem.maxIterations → loop.continues q = true →
      ∃ next record, loop.Step calls q next record := by
    intro records q path hlt hgo
    obtain ⟨candidate, proposed, hcandidate⟩ :=
      propose_returns h wellFormed returns raises (hshape path) (hstep path hlt hgo)
    rw [wellFormed.start] at hcandidate
    obtain ⟨d, measured⟩ := exists_candidateDistance returns.residual wellFormed.nonempty hcandidate
    rw [← residual_of_loop? h] at measured
    exact Loop.Step.exists_of_measured proposed measured (by rw [law_of_loop? h]; exact hbackoff)
  obtain ⟨last, records, hrun⟩ := Loop.run_returns hcompletes
  obtain ⟨path, hle, hexit⟩ := Loop.run_result_eq_ok_iff.1 hrun
  exact ⟨_, (run_result_eq_ok_iff_of_loop? h).2
    ⟨distance, last, records, hdistance, path, hle, hexit, rfl⟩⟩

end Equilibrium
