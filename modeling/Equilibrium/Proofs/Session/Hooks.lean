import Equilibrium.Proofs.Search.Stages
import Equilibrium.Proofs.Session.Failure

/-!
What the observers of a solve are called for.

A search calls its observers after each iteration and at its end, the engine once more if the search
has converged, and the interface learns of a failure that escapes. So the whole list of calls is
told by the stages of the search and by what has become of it: the stages first, in order and once
each, and then either the end of the result or the failure. A solve of which no problem is made
calls nobody.
-/

namespace Equilibrium

variable {α : Type} [Scalar α] {problem : Problem α}

/-- The calls that end a solve which returns this result. -/
def Result.endHooks (result : Result α) : List (Hook α) :=
  if result.converged then
    [.accept result.iterations result.state result.distance,
      .success result.iterations result.state result.distance]
  else [.failure result.iterations result.state result.distance]

/-- The search announces its end and the engine what it thinks of it; together they tell of the
result. -/
theorem Progress.endHooks_eq (p : Progress α) (problem : Problem α) (history : List (Record α)) :
    hooks (p.closing problem.tol) ++
        hooks (EngineKind.steadyState.closing (p.outcome problem.tol history)) =
      (Result.ofOutcome problem (p.outcome problem.tol history)).endHooks := by
  have hconverged : (Result.ofOutcome problem (p.outcome problem.tol history)).converged =
      p.isSteady problem.tol := rfl
  rw [Result.endHooks, hconverged]
  unfold closing EngineKind.closing
  change _ ++ hooks (if p.isSteady problem.tol then _ else _) = _
  cases p.isSteady problem.tol with
  | true => rfl
  | false => rfl

namespace Session

variable {s : Session α} {c : Config α} {r : Request α} {o : Overrides α} {keep : Bool}

/-- A solve that returns calls observers at every stage of its search, and then for its result. -/
theorem hooks_of_returns {result : Result α} (returns : (s.solve r o keep).2.result = .ok result) :
    ∃ c problem places, s.effective o = .ok c ∧
      Problem.create s.interface.strategy c r = .ok problem ∧
      (∀ k place, places[k]? = some place ↔ s.backend.Reaches s.calls problem (k + 1) place) ∧
      result.iterations = places.length ∧
      hooks (s.solve r o keep).2.notices = stageHooks 0 places ++ result.endHooks := by
  obtain ⟨c, problem, outcome, effective, created, hrun, rfl⟩ := solve_result_eq_ok_iff.1 returns
  obtain ⟨places, stages⟩ := s.backend.exists_stages s.calls problem
  obtain ⟨p, history, rfl, hiteration, htold⟩ := stages.returns outcome hrun
  refine ⟨c, problem, places, effective, created, stages.reaches,
    congrArg Nat.cast hiteration, ?_⟩
  rw [solve_of_create effective created, EngineKind.report_notices_of_ok _ _ hrun,
    ← Progress.endHooks_eq, ← List.append_assoc, ← htold]
  exact hooks_append _ _

/-- How the observers of a solve are called. -/
structure Observed (s : Session α) (r : Request α) (o : Overrides α) (keep : Bool) : Prop where
  returns : ∀ result, (s.solve r o keep).2.result = .ok result → ∃ c problem places,
    s.effective o = .ok c ∧ Problem.create s.interface.strategy c r = .ok problem ∧
    (∀ k place, places[k]? = some place ↔ s.backend.Reaches s.calls problem (k + 1) place) ∧
    result.iterations = places.length ∧
    hooks (s.solve r o keep).2.notices = stageHooks 0 places ++ result.endHooks
  raises : ∀ c problem fault, s.effective o = .ok c →
    Problem.create s.interface.strategy c r = .ok problem →
    (s.backend.run s.calls problem).result = .error fault →
    (∃ fault', (s.solve r o keep).2.result = .error fault') ∧ ∃ places,
      (∀ k place, places[k]? = some place ↔ s.backend.Reaches s.calls problem (k + 1) place) ∧
      hooks (s.solve r o keep).2.notices = stageHooks 0 places ++ [.escape fault]
  refuses : (∀ c problem, s.effective o = .ok c →
      Problem.create s.interface.strategy c r ≠ .ok problem) →
    hooks (s.solve r o keep).2.notices = []

theorem solve_observed (s : Session α) (r : Request α) (o : Overrides α) (keep : Bool) :
    s.Observed r o keep := by
  constructor
  case returns => exact fun result returns => hooks_of_returns returns
  case raises =>
    intro c problem fault effective created hrun
    obtain ⟨places, stages⟩ := s.backend.exists_stages s.calls problem
    refine ⟨?_, places, stages.reaches, ?_⟩
    · cases hresult : (s.solve r o keep).2.result with
      | error fault' => exact ⟨fault', rfl⟩
      | ok result =>
          obtain ⟨c', problem', outcome, effective', created', hrun', -⟩ :=
            solve_result_eq_ok_iff.1 hresult
          cases effective'.symm.trans effective
          cases created'.symm.trans created
          cases hrun'.symm.trans hrun
    · rw [solve_of_create effective created, EngineKind.report_notices_of_error _ _ hrun,
        ← stages.fails fault hrun]
      exact hooks_append _ _
  case refuses =>
    intro refused
    cases effective : s.effective o with
    | error fault =>
        rw [solve_of_error effective]
        rfl
    | ok c =>
        cases created : Problem.create s.interface.strategy c r with
        | ok problem => exact absurd created (refused c problem effective)
        | error fault =>
            rw [solve_of_refused effective created]
            rfl

end Session

end Equilibrium
