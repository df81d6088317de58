import Equilibrium.Proofs.Search.Backend

/-!
How often a search calls its collaborators.

Each proposal is one call, whatever becomes of it, and nothing else in an iteration calls anyone. A
loop therefore calls at most once for each iteration that its budget has, even if it fails on the
way, and the searches that do without a loop call at most once.
-/

namespace Equilibrium

variable {α : Type} [Scalar α]

namespace Problem

variable (problem : Problem α) (calls : Nat) (x : Tensor α) (step : α)

theorem callsAtMost_propose (solver : InnerSolver α) (plan : InnerPlan α) :
    (problem.propose solver plan calls x step).CallsAtMost 1 := by
  refine Traced.CallsAtMost.bind_of_no_call ?_ fun answer => ?_
  · exact (Traced.callsAtMost_lift _).bind_after_no_call fun call =>
      solver.callsAtMost_ask calls call
  · simp only
    split
    · exact Nat.le_refl 0
    · exact Nat.le_refl 0

theorem callsAtMost_proposeByFlow (integrator : Integrator α) :
    (problem.proposeByFlow integrator calls x step).CallsAtMost 1 := by
  refine Traced.CallsAtMost.bind_of_no_call (integrator.callsAtMost_ask _ _) fun t => ?_
  exact (Traced.callsAtMost_lift _).bind_after_no_call fun y => Traced.callsAtMost_pure _

end Problem

theorem Progress.callsAtMost_finish (p : Progress α) (tol : α) (history : List (Record α)) :
    (p.finish tol history).CallsAtMost 0 := by
  rw [Traced.CallsAtMost, finish, closing]
  split
  · exact Nat.le_refl 0
  · exact Nat.le_refl 0

namespace Loop

variable {loop : Loop α} {calls : Nat}

def ProposesByOneCall (loop : Loop α) : Prop :=
  ∀ calls x step, (loop.propose calls x step).CallsAtMost 1

theorem ProposesByOneCall.iterate (h : loop.ProposesByOneCall) (p : Progress α) :
    (loop.iterate calls p).CallsAtMost 1 := by
  refine Traced.CallsAtMost.bind_of_no_call (h _ _ _) fun candidate => ?_
  refine (Traced.callsAtMost_lift _).bind_after_no_call fun distance => ?_
  refine (Traced.callsAtMost_lift _).bind_after_no_call fun next => ?_
  exact Traced.CallsAtMost.bind_after_no_call (Nat.le_refl 0) fun _ => Traced.callsAtMost_pure _

theorem ProposesByOneCall.run (h : loop.ProposesByOneCall) (budget : Nat) (p : Progress α) :
    (loop.run calls budget p).CallsAtMost budget := by
  induction budget generalizing p with
  | zero => exact Nat.le_refl 0
  | succ budget ih =>
      cases hgo : loop.continues p with
      | false =>
          rw [run_of_not_continues hgo]
          exact Nat.zero_le _
      | true =>
          rw [run_succ hgo, Nat.add_comm]
          refine (h.iterate p).bind fun (next, record) => ?_
          exact Traced.CallsAtMost.bind_of_no_call (ih next) fun _ => Traced.callsAtMost_pure _

end Loop

variable {backend : Backend α} {problem : Problem α} {calls : Nat} {loop : Loop α}

theorem Backend.proposesByOneCall (h : backend.loop? problem = some loop) :
    loop.ProposesByOneCall := by
  obtain ⟨-, -, rfl⟩ | ⟨-, rfl⟩ := loop?_eq_some_iff.1 h
  · exact fun calls x step => problem.callsAtMost_propose calls x step _ _
  · exact fun calls x step => problem.callsAtMost_proposeByFlow calls x step _

theorem Problem.callsAtMost_solveDirectly (problem : Problem α) (solver : InnerSolver α) :
    (problem.solveDirectly solver calls).CallsAtMost 1 := by
  refine Traced.CallsAtMost.bind_of_no_call (problem.callsAtMost_propose _ _ _ _ _)
    fun answer => ?_
  exact Traced.CallsAtMost.bind_after_no_call (Nat.le_refl 0) fun _ =>
    Progress.callsAtMost_finish _ _ _

theorem Problem.callsAtMost_relax (problem : Problem α) (integrator : Integrator α) :
    (problem.relax integrator calls).CallsAtMost 1 := by
  refine (Traced.callsAtMost_lift _).bind_after_no_call fun distance => ?_
  split
  · exact (Progress.callsAtMost_finish _ _ _).mono (Nat.zero_le 1)
  · refine Traced.CallsAtMost.bind_of_no_call (integrator.callsAtMost_ask _ _) fun t => ?_
    refine (Traced.callsAtMost_lift _).bind_after_no_call fun state => ?_
    refine (Traced.callsAtMost_lift _).bind_after_no_call fun reached => ?_
    refine (Traced.callsAtMost_lift _).bind_after_no_call fun time => ?_
    exact Traced.CallsAtMost.bind_after_no_call (Nat.le_refl 0) fun _ =>
      Progress.callsAtMost_finish _ _ _

/-- A search calls its collaborators no more often than its budget has iterations, and a search
without a loop at most once. -/
theorem Backend.callsAtMost_run (backend : Backend α) (problem : Problem α) (calls : Nat) :
    (backend.run calls problem).CallsAtMost (max 1 (iterationBudget problem.maxIterations)) := by
  cases hloop : backend.loop? problem with
  | some loop =>
      rw [run_of_loop? hloop]
      refine Traced.CallsAtMost.mono ?_ (Nat.le_max_right 1 _)
      refine (Traced.callsAtMost_lift _).bind_after_no_call fun distance => ?_
      exact Traced.CallsAtMost.bind_of_no_call ((proposesByOneCall hloop).run _ _) fun _ =>
        Progress.callsAtMost_finish _ _ _
  | none =>
      refine Traced.CallsAtMost.mono ?_ (Nat.le_max_left 1 _)
      cases hs : backend.strategy with
      | pseudoTransient =>
          have hinf : Scalar.isInf problem.step = true := by
            simpa [loop?, hs] using hloop
          simp only [run, hs, Problem.continuePseudoTransient, hinf, if_true]
          exact (Traced.callsAtMost_lift _).bind_after_no_call fun distance =>
            problem.callsAtMost_solveDirectly _
      | horizons => simp [loop?, hs] at hloop
      | relaxation =>
          simp only [run, hs]
          exact problem.callsAtMost_relax _

end Equilibrium
