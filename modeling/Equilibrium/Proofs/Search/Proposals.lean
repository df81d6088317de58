import Equilibrium.Proofs.Search.Backend

/-!
How candidates are proposed.

Both ways of proposing come down to one call to a collaborator. The call is determined by the
committed state and the step before anyone is asked, the candidate is what comes back, and no other
call is made. So whatever a search that loops asks of the inner solver, it asks at the beginning of
an iteration.
-/

namespace Equilibrium

theorem Trajectory.finalState_eq_ok_iff {α : Type} {trajectory : Trajectory α} {y : Tensor α} :
    trajectory.finalState = .ok y ↔ trajectory.states.getLast? = some y := by
  unfold finalState
  split
  · next h => simp [h]
  · next h => simp [h]

variable {α : Type} [Scalar α] {problem : Problem α} {calls : Nat} {x : Tensor α} {step : α}
  {candidate : Candidate α}

/-! ### Implicit steps -/

theorem stepCall_eq_ok_iff {F : Field α} {marking : Marking} {jacobian : Option (Field α)}
    {plan : InnerPlan α} {call : InnerCall α} :
    stepCall F x step marking jacobian plan = .ok call ↔
      ∃ G J, implicitResidual F x step marking = .ok G ∧
        stepJacobian jacobian step marking plan.derivative = .ok J ∧
        call = ⟨G, x, J, plan.method, plan.tol, plan.maxIterations, plan.verbose⟩ := by
  simp only [stepCall, except_bind_eq_ok_iff]
  constructor
  · rintro ⟨G, hG, J, hJ, h⟩
    cases h
    exact ⟨G, J, hG, hJ, rfl⟩
  · rintro ⟨G, J, hG, hJ, rfl⟩
    exact ⟨G, hG, J, hJ, rfl⟩

theorem stepJacobian_isSome_iff {jacobian J : Option (Field α)} {marking : Marking}
    {derivative : Derivative} (h : stepJacobian jacobian step marking derivative = .ok J) :
    J.isSome = true ↔ derivative = .analytic := by
  cases derivative with
  | finite =>
      cases h
      simp
  | analytic =>
      cases jacobian with
      | none => cases h
      | some J =>
          cases h
          simp

variable {solver : InnerSolver α} {plan : InnerPlan α}

namespace Problem

def implicitCall (problem : Problem α) (plan : InnerPlan α) (x : Tensor α) (step : α) :
    Except (Fault α) (InnerCall α) :=
  stepCall problem.residual x step (.ofMask problem.mask) problem.jacobian plan

theorem propose_result_eq_ok_iff :
    (problem.propose solver plan calls x step).result = .ok candidate ↔
      ∃ call answer, problem.implicitCall plan x step = .ok call ∧
        (solver.solve calls call).outcome = .ok answer ∧ answer.state.shape = x.shape ∧
        candidate = ⟨answer.state, answer.distance⟩ := by
  simp only [propose, implicitStep, implicitCall, Traced.bind_result_eq_ok_iff, Traced.lift_eq,
    Traced.guard_result_eq_ok_iff, Traced.pure_eq, Except.ok.injEq, Decidable.not_not]
  constructor
  · rintro ⟨answer, ⟨call, hcall, hanswer⟩, hshape, rfl⟩
    exact ⟨call, answer, hcall, hanswer, hshape, rfl⟩
  · rintro ⟨call, answer, hcall, hanswer, hshape, rfl⟩
    exact ⟨answer, ⟨call, hcall, hanswer⟩, hshape, rfl⟩

theorem innerExchanges_propose {call : InnerCall α}
    (h : problem.implicitCall plan x step = .ok call) :
    innerExchanges (problem.propose solver plan calls x step).notices =
      [(call, solver.solve calls call)] := by
  have hstep : implicitStep solver calls problem.residual x step (.ofMask problem.mask)
      problem.jacobian plan = solver.ask calls call := by
    rw [implicitStep, Traced.lift_eq, ← implicitCall, h]
    rfl
  have hsilent : (problem.propose solver plan calls x step).notices =
      (solver.ask calls call).notices := by
    rw [propose, hstep]
    refine Traced.bind_notices_of_silent fun answer => ?_
    simp only
    split
    · rfl
    · rfl
  rw [hsilent, innerExchanges_ask]

/-- Whatever is asked of the inner solver is the call of an implicit step. -/
theorem implicitCall_of_mem_propose {call : InnerCall α} {reply : InnerReply α}
    (h : .inner call reply ∈ (problem.propose solver plan calls x step).notices) :
    problem.implicitCall plan x step = .ok call := by
  cases hcall : problem.implicitCall plan x step with
  | error fault =>
      rw [propose, implicitStep, ← implicitCall, hcall] at h
      cases h
  | ok call' =>
      have hmem : (call, reply) ∈ innerExchanges
          (problem.propose solver plan calls x step).notices :=
        List.mem_filterMap.2 ⟨_, h, rfl⟩
      rw [innerExchanges_propose hcall, List.mem_singleton] at hmem
      cases hmem
      rfl

/-! ### Integrations -/

variable {integrator : Integrator α}

theorem proposeByFlow_result_eq_ok_iff :
    (problem.proposeByFlow integrator calls x step).result = .ok candidate ↔
      ∃ trajectory,
        (integrator.integrate calls (problem.flowCall x step)).outcome = .ok trajectory ∧
        trajectory.states.getLast? = some candidate.state ∧
        candidate.innerDistance = Scalar.undefined := by
  simp only [proposeByFlow, Traced.bind_result_eq_ok_iff, Traced.lift_eq, Traced.pure_eq,
    Except.ok.injEq, Trajectory.finalState_eq_ok_iff]
  constructor
  · rintro ⟨trajectory, htrajectory, state, hstate, rfl⟩
    exact ⟨trajectory, htrajectory, hstate, rfl⟩
  · rintro ⟨trajectory, htrajectory, hstate, hinner⟩
    refine ⟨trajectory, htrajectory, candidate.state, hstate, ?_⟩
    rw [← hinner]

theorem notices_proposeByFlow :
    (problem.proposeByFlow integrator calls x step).notices =
      (integrator.ask calls (problem.flowCall x step)).notices := by
  refine Traced.bind_notices_of_silent fun trajectory => ?_
  exact Traced.bind_notices_of_silent fun state => rfl

theorem flowExchanges_proposeByFlow :
    flowExchanges (problem.proposeByFlow integrator calls x step).notices =
      [(problem.flowCall x step, integrator.integrate calls (problem.flowCall x step))] := by
  rw [notices_proposeByFlow, flowExchanges_ask]

/-- An integration asks nothing of the inner solver. -/
theorem inner_notMem_proposeByFlow (call : InnerCall α) (reply : InnerReply α) :
    .inner call reply ∉ (problem.proposeByFlow integrator calls x step).notices := by
  rw [notices_proposeByFlow]
  simp [Integrator.ask]

end Problem

/-! ### Searches that loop -/

variable {call : InnerCall α} {reply : InnerReply α}

theorem Progress.inner_notMem_closing (p : Progress α) (tol : α) :
    .inner call reply ∉ p.closing tol := by
  unfold closing
  split
  · simp
  · simp

/-- The inner solver is asked about the iterations that begin, by the plan of the problem. -/
theorem Backend.exists_begins_of_asked {backend : Backend α} {loop : Loop α}
    (h : backend.loop? problem = some loop)
    (asked : .inner call reply ∈ (backend.run calls problem).notices) :
    ∃ p, backend.Begins calls problem loop p ∧
      problem.implicitCall problem.innerPlan p.state p.step = .ok call := by
  obtain ⟨distance, records, p, hdistance, path, hlt, goes, asked⟩ | ⟨last, asked⟩ :=
    mem_run_notices_of_loop? h asked
  · refine ⟨p, ⟨h, distance, records, hdistance, path, hlt, goes⟩, ?_⟩
    obtain asked | ⟨next, record, asked⟩ := Loop.mem_iterate_notices asked
    · obtain ⟨-, -, rfl⟩ | ⟨-, rfl⟩ := loop?_eq_some_iff.1 h
      · exact Problem.implicitCall_of_mem_propose asked
      · exact absurd asked (Problem.inner_notMem_proposeByFlow call reply)
    · simp [Loop.notices] at asked
  · exact absurd asked (last.inner_notMem_closing _)

end Equilibrium
