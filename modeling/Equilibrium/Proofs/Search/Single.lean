import Equilibrium.Proofs.Search.Chain

/-!
Searches that make a single call.

A direct solve asks an inner solver once, and a relaxation asks an integrator once unless it starts
within the tolerance. There is no loop to follow: what such a search returns and what it asks is
read off its one answer.
-/

namespace Equilibrium

variable {α : Type} [Scalar α] {problem : Problem α} {calls : Nat} {o : Outcome α}

/-! ### Direct solves -/

/-- With an infinite first step pseudo-transient continuation is a direct solve. -/
theorem Backend.run_of_infinite (tools : Toolbox α) (calls : Nat)
    (infinite : Scalar.isInf problem.step = true) {distance : α}
    (hdistance : initialDistance problem = .ok distance) :
    (Backend.mk .pseudoTransient tools).run calls problem =
      problem.solveDirectly tools.solver calls := by
  change problem.continuePseudoTransient tools.solver calls = _
  rw [Problem.continuePseudoTransient, hdistance, Traced.lift_eq, Traced.bind_ok, if_pos infinite]
  rfl

namespace Problem

variable {solver : InnerSolver α}

theorem solveDirectly_result_eq_ok_iff :
    (problem.solveDirectly solver calls).result = .ok o ↔
      ∃ answer, (problem.propose solver problem.directPlan calls problem.start
          Scalar.infinity).result = .ok answer ∧
        o = (problem.directProgress answer).outcome problem.tol [problem.directRecord answer] := by
  unfold solveDirectly
  rw [Traced.bind_result_eq_ok_iff]
  constructor
  · rintro ⟨answer, hanswer, h⟩
    cases h
    exact ⟨answer, hanswer, rfl⟩
  · rintro ⟨answer, hanswer, rfl⟩
    exact ⟨answer, hanswer, rfl⟩

/-! ### Relaxations -/

def relaxationCall (problem : Problem α) : FlowCall α :=
  problem.flowCall problem.start problem.horizon

variable {integrator : Integrator α} {distance : α}

theorem relax_of_within (hdistance : initialDistance problem = .ok distance)
    (within : distance ≤ problem.tol) :
    problem.relax integrator calls =
      (Progress.start problem.start 0 distance).finish problem.tol [] := by
  rw [relax, hdistance, Traced.lift_eq, Traced.bind_ok, if_pos within]
  rfl

/-- A relaxation that starts outside the tolerance returns where its integration ends. -/
theorem relax_result_eq_ok_iff_of_not_within
    (hdistance : initialDistance problem = .ok distance) (outside : ¬ distance ≤ problem.tol) :
    (problem.relax integrator calls).result = .ok o ↔
      ∃ trajectory state reached time,
        (integrator.integrate calls problem.relaxationCall).outcome = .ok trajectory ∧
        trajectory.states.getLast? = some state ∧
        candidateDistance problem.residual state = .ok reached ∧
        trajectory.finalTime = .ok time ∧
        o = (Trajectory.progress state time reached).outcome problem.tol
          [Trajectory.record time reached] := by
  rw [relax, hdistance, Traced.lift_eq, Traced.bind_ok, if_neg outside]
  simp only [Traced.bind_result_eq_ok_iff, Traced.lift_eq, Trajectory.finalState_eq_ok_iff]
  constructor
  · rintro ⟨trajectory, htrajectory, state, hstate, reached, hreached, time, htime, -, -, h⟩
    cases h
    exact ⟨trajectory, state, reached, time, htrajectory, hstate, hreached, htime, rfl⟩
  · rintro ⟨trajectory, state, reached, time, htrajectory, hstate, hreached, htime, rfl⟩
    exact ⟨trajectory, htrajectory, state, hstate, reached, hreached, time, htime, (), rfl, rfl⟩

theorem flowExchanges_relax_of_not_within
    (hdistance : initialDistance problem = .ok distance) (outside : ¬ distance ≤ problem.tol) :
    flowExchanges (problem.relax integrator calls).notices =
      [(problem.relaxationCall, integrator.integrate calls problem.relaxationCall)] := by
  rw [relax, hdistance, Traced.lift_eq, Traced.bind_ok, if_neg outside, List.nil_append]
  refine (Traced.flowExchanges_bind fun trajectory => ?_).trans (flowExchanges_ask _ _ _)
  refine (Traced.flowExchanges_bind fun state => ?_).trans rfl
  refine (Traced.flowExchanges_bind fun reached => ?_).trans rfl
  refine (Traced.flowExchanges_bind fun time => ?_).trans rfl
  exact Traced.flowExchanges_bind fun _ => Progress.flowExchanges_closing _ _

/-- Whatever a relaxation exchanges, it exchanges only this, and only from outside the tolerance. -/
theorem of_flowExchanges_relax {k : Nat} {exchange : FlowCall α × FlowReply α}
    (h : (flowExchanges (problem.relax integrator calls).notices)[k]? = some exchange) :
    ∃ distance, initialDistance problem = .ok distance ∧ ¬ distance ≤ problem.tol ∧ k = 0 ∧
      exchange = (problem.relaxationCall, integrator.integrate calls problem.relaxationCall) := by
  cases hdistance : initialDistance problem with
  | error fault => simp [relax, hdistance] at h
  | ok distance =>
      by_cases hwithin : distance ≤ problem.tol
      · rw [relax_of_within hdistance hwithin, Progress.finish, Progress.flowExchanges_closing] at h
        cases h
      · rw [flowExchanges_relax_of_not_within hdistance hwithin, List.getElem?_singleton] at h
        split at h
        · next hk =>
            cases h
            exact ⟨distance, rfl, hwithin, hk, rfl⟩
        · cases h

end Problem

end Equilibrium
