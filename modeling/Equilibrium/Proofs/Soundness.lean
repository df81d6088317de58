import Equilibrium.Proofs.Residual.Distance
import Equilibrium.Proofs.Scalar.Double
import Equilibrium.Proofs.Search.Backend
import Equilibrium.Proofs.Search.Identity
import Equilibrium.Proofs.Session

/-!
Soundness of results.

A search carries its committed state and the distance of that state side by side, and nothing in
their types ties them together. What ties them is an invariant: the distance is the one that
measuring the state would give. It holds where a search begins because the initial distance is
defined, and every iteration keeps it because state and distance are replaced together or not at
all. A search by a single integration measures the state that it ends in. Only a direct solve
reports a distance that it was told, and it is left out here.
-/

namespace Equilibrium

variable {α : Type} [Scalar α] {F : Field α} {problem : Problem α} {calls : Nat}

/-- The distance of a progress is that of its state. -/
def Progress.Measured (p : Progress α) (F : Field α) : Prop :=
  candidateDistance F p.state = .ok p.distance

theorem candidateDistance_of_initialDistance {distance : α}
    (h : initialDistance problem = .ok distance) :
    candidateDistance problem.residual problem.start = .ok distance := by
  obtain ⟨hdistance, hnan⟩ := initialDistance_eq_ok_iff.1 h
  exact candidateDistance_eq_ok_iff.2
    ⟨distance, hdistance, (Scalar.orInfinite_of_defined hnan).symm⟩

theorem Loop.Step.measured {loop : Loop α} {p next : Progress α} {record : Record α}
    (h : loop.Step calls p next record) (hp : p.Measured loop.residual) :
    next.Measured loop.residual := by
  obtain ⟨candidate, distance, -, hmeasured, -, -, -, -, hstate, hdistance⟩ := h.settled
  unfold Progress.Measured
  rw [hstate, hdistance]
  split
  · exact hmeasured
  · exact hp

/-- Wherever the iterations of a search lead, the state has been measured. -/
theorem Backend.measured_of_path {backend : Backend α} {loop : Loop α} {distance : α}
    {records : List (Record α)} {last : Progress α} (hloop : backend.loop? problem = some loop)
    (hdistance : initialDistance problem = .ok distance)
    (path : loop.Path calls (.start problem.start problem.step distance) records last) :
    last.Measured problem.residual := by
  rw [← residual_of_loop? hloop]
  refine path.invariant (fun hp _ hstep => hstep.measured hp) ?_
  rw [residual_of_loop? hloop]
  exact candidateDistance_of_initialDistance hdistance

theorem Problem.relax_measured {integrator : Integrator α} {o : Outcome α}
    (h : (problem.relax integrator calls).result = .ok o) :
    ∃ (p : Progress α) (history : List (Record α)), p.Measured problem.residual ∧
      o = p.outcome problem.tol history := by
  unfold relax at h
  obtain ⟨distance, hdistance, h⟩ := Traced.bind_result_eq_ok_iff.1 h
  split at h
  · cases h
    exact ⟨.start problem.start 0 distance, [],
      candidateDistance_of_initialDistance hdistance, rfl⟩
  · obtain ⟨trajectory, -, h⟩ := Traced.bind_result_eq_ok_iff.1 h
    obtain ⟨state, -, h⟩ := Traced.bind_result_eq_ok_iff.1 h
    obtain ⟨reached, hreached, h⟩ := Traced.bind_result_eq_ok_iff.1 h
    obtain ⟨time, -, h⟩ := Traced.bind_result_eq_ok_iff.1 h
    cases h
    exact ⟨Trajectory.progress state time reached, [Trajectory.record time reached], hreached, rfl⟩

/-- Every search but a direct solve ends with a state and the distance of that state, and its
outcome is made of them. -/
theorem Backend.run_measured {backend : Backend α} {o : Outcome α}
    (finite : backend.strategy = .pseudoTransient → Scalar.isInf problem.step = false)
    (h : (backend.run calls problem).result = .ok o) :
    ∃ (p : Progress α) (history : List (Record α)), p.Measured problem.residual ∧
      o = p.outcome problem.tol history := by
  cases hloop : backend.loop? problem with
  | some loop =>
      obtain ⟨distance, last, records, hdistance, path, -, -, rfl⟩ :=
        (run_result_eq_ok_iff_of_loop? hloop).1 h
      exact ⟨last, records, measured_of_path hloop hdistance path, rfl⟩
  | none =>
      rw [run, strategy_of_loop?_eq_none hloop finite] at h
      exact Problem.relax_measured h

/-- The distance of a result is the distance of the very state that is returned, infinite where that
is undefined and never below zero, and the result counts as converged exactly if that distance is
within the tolerance. -/
theorem Session.solve_sound [Scalar.Lawful α] {s : Session α} {r : Request α} {o : Overrides α}
    {keep : Bool} {c : Config α} {result : Result α} (effective : s.effective o = .ok c)
    (residual : r.residual = .function F)
    (finite : s.backend.strategy = .pseudoTransient → Scalar.isInf c.settings.step = false)
    (returns : (s.solve r o keep).2.result = .ok result) :
    ∃ distance, residualDistance F result.state = .ok distance ∧
      result.distance = Scalar.orInfinite distance ∧
      Scalar.isNaN result.distance = false ∧ 0 ≤ result.distance ∧
      (result.converged = true ↔ result.distance ≤ c.settings.tol) := by
  obtain ⟨c', problem, outcome, hc, hproblem, hrun, rfl⟩ := solve_result_eq_ok_iff.1 returns
  cases hc.symm.trans effective
  obtain ⟨F', jacobian, start, mask, hF, -, -, -, -, -, -, -, rfl⟩ :=
    Problem.create_eq_ok_iff.1 hproblem
  cases hF.symm.trans residual
  obtain ⟨p, history, hmeasured, rfl⟩ := Backend.run_measured finite hrun
  obtain ⟨distance, hdistance, hinfinite⟩ := candidateDistance_eq_ok_iff.1 hmeasured
  obtain ⟨hnan, hnonneg⟩ := candidateDistance_nonneg hmeasured
  exact ⟨distance, hdistance, hinfinite, hnan, hnonneg, decide_eq_true_iff⟩

def Session.trial : Session Float :=
  ⟨.double, ⟨.pseudoTransient, .trial⟩, .ofStrategy .pseudoTransient, none, 0⟩

theorem Session.trial_effective : trial.effective .empty = .ok .double := by
  change Config.ofSettings Config.double.settings = _
  exact Config.ofSettings_eq_ok_iff.2 rfl

theorem Session.trial_returns {o : Outcome Float}
    (hrun : ((Backend.mk .pseudoTransient .trial).run 0 (.identity .double 1)).result = .ok o) :
    (trial.solve (.identity 1) .empty false).2.result =
      .ok (.ofOutcome (.identity .double 1) o) :=
  solve_result_eq_ok_iff.2 ⟨.double, .identity .double 1, o, trial_effective,
    Problem.create_identity .pseudoTransient (by decide +kernel) 1, hrun, rfl⟩

theorem Session.trial_sound :
    ∃ result, (trial.solve (.identity 1) .empty false).2.result = .ok result ∧
      result.history.map Record.accepted = [false, true, true] ∧
      ∃ distance, residualDistance .ok result.state = .ok distance ∧
        result.distance = Scalar.orInfinite distance ∧
        Scalar.isNaN result.distance = false ∧ 0 ≤ result.distance ∧
        (result.converged = true ↔ result.distance ≤ Config.double.settings.tol) := by
  obtain ⟨o, hrun, hflags⟩ := Backend.trial_returns .pseudoTransient (by decide)
  have returns := trial_returns hrun
  exact ⟨_, returns, hflags,
    solve_sound trial_effective rfl (fun _ => by decide +kernel) returns⟩

end Equilibrium
