import Equilibrium.Proofs.Search.Calls
import Equilibrium.Proofs.Search.Shape
import Equilibrium.Proofs.Session.Failure
import Equilibrium.Proofs.Soundness

/-!
Solving again.

A solve that has converged can be asked for once more, from the state that it returned. Everything
that was checked when its problem was made holds of that state as well, since it is as long as the
initial one, and its distance is the one that was returned. So the search ends where it begins: it
calls nobody and returns the same state at the same distance.

What carries this is an invariant of the first search. Wherever it stands, another search could
begin, and would find there the distance that this one has committed. A direct solve is left out,
since the distance that it returns is not measured.
-/

namespace Equilibrium

variable {α : Type} [Scalar α] {backend : Backend α} {problem : Problem α} {loop : Loop α}
  {calls : Nat} {p next : Progress α} {record : Record α} {shape : List Nat} {o : Outcome α}

/-! ### Where a search could begin again -/

def Problem.startingAt (problem : Problem α) (y : Tensor α) : Problem α :=
  { problem with start := y }

/-- Another search could begin where this one stands. -/
structure Progress.Restarts (p : Progress α) (problem : Problem α) : Prop where
  shape : p.state.shape = problem.start.shape
  distance : initialDistance (problem.startingAt p.state) = .ok p.distance

/-- It could if the residual is defined there. -/
theorem Progress.restarts_of_measured {d : α} (hshape : p.state.shape = problem.start.shape)
    (measured : residualDistance problem.residual p.state = .ok d)
    (defined : Scalar.isNaN d = false) (hdistance : p.distance = Scalar.orInfinite d) :
    p.Restarts problem := by
  rw [Scalar.orInfinite_of_defined defined] at hdistance
  refine ⟨hshape, initialDistance_eq_ok_iff.2 ?_⟩
  rw [hdistance]
  exact ⟨measured, defined⟩

theorem Progress.restarts_of_initialDistance {distance : α}
    (hdistance : initialDistance problem = .ok distance) (step : α) :
    (Progress.start problem.start step distance).Restarts problem :=
  ⟨rfl, hdistance⟩

theorem Problem.relax_restarts [Scalar.Transitive α] {integrator : Integrator α}
    (keeps : integrator.Keeps problem.start.shape)
    (returns : (problem.relax integrator calls).result = .ok o)
    (converged : (Result.ofOutcome problem o).converged = true) :
    ∃ (p : Progress α) (history : List (Record α)), p.Restarts problem ∧
      p.distance ≤ problem.tol ∧ o = p.outcome problem.tol history := by
  obtain ⟨distance, hdistance, -⟩ := Traced.bind_result_eq_ok_iff.1 returns
  by_cases hwithin : distance ≤ problem.tol
  · rw [relax_of_within hdistance hwithin] at returns
    cases returns
    exact ⟨.start problem.start 0 distance, [],
      Progress.restarts_of_initialDistance hdistance 0, hwithin, rfl⟩
  · obtain ⟨trajectory, state, reached, time, htrajectory, hstate, hreached, -, rfl⟩ :=
      (relax_result_eq_ok_iff_of_not_within hdistance hwithin).1 returns
    have hconverged : reached ≤ problem.tol := of_decide_eq_true converged
    obtain ⟨d, hd, rfl⟩ := candidateDistance_eq_ok_iff.1 hreached
    -- Only an infinite tolerance is met by an undefined residual, and that the start meets as well.
    have defined : Scalar.isNaN d = false := by
      cases hundefined : Scalar.isNaN d with
      | false => rfl
      | true =>
          have hinfinite : distance ≤ Scalar.infinity :=
            Scalar.Transitive.le_infinity (initialDistance_eq_ok_iff.1 hdistance).2
          rw [Scalar.orInfinite, if_pos hundefined] at hconverged
          exact absurd (Scalar.Transitive.le_trans hinfinite hconverged) hwithin
    refine ⟨Trajectory.progress state time (Scalar.orInfinite d), _, ?_, hconverged, rfl⟩
    exact Progress.restarts_of_measured (keeps _ _ trajectory state rfl htrajectory hstate) hd
      defined rfl

variable [Scalar.Lawful α]

/-- An iteration commits a state only at a finite distance. -/
theorem Loop.Step.restarts (keeps : backend.Keeps problem.start.shape)
    (h : backend.loop? problem = some loop) (hp : p.Restarts problem)
    (hstep : loop.Step calls p next record) : next.Restarts problem := by
  cases hstep with
  | accept candidate distance proposed measured commits =>
      rw [Backend.residual_of_loop? h] at measured
      obtain ⟨d, hd, rfl⟩ := candidateDistance_eq_ok_iff.1 measured
      have hfinite : Scalar.isFinite d = true := by
        rw [← Scalar.isFinite_orInfinite]
        exact (Bool.and_eq_true_iff.1 commits).2
      exact Progress.restarts_of_measured (keeps.proposed h hp.shape proposed) hd
        (Scalar.isNaN_of_isFinite hfinite) rfl
  | reject candidate distance proposed measured discards divides =>
      exact ⟨hp.shape, hp.distance⟩

/-- A search that ends within the tolerance, and that is no direct solve, ends where another could
begin. -/
theorem Backend.run_restarts [Scalar.Transitive α] (keeps : backend.Keeps problem.start.shape)
    (finite : backend.strategy = .pseudoTransient → Scalar.isInf problem.step = false)
    (returns : (backend.run calls problem).result = .ok o)
    (converged : (Result.ofOutcome problem o).converged = true) :
    ∃ (p : Progress α) (history : List (Record α)), p.Restarts problem ∧
      p.distance ≤ problem.tol ∧ o = p.outcome problem.tol history := by
  cases hloop : backend.loop? problem with
  | some loop =>
      obtain ⟨distance, last, records, hdistance, path, -, -, rfl⟩ :=
        (run_result_eq_ok_iff_of_loop? hloop).1 returns
      have hrestarts : last.Restarts problem :=
        path.invariant (fun hp _ hstep => hstep.restarts keeps hloop hp)
          (Progress.restarts_of_initialDistance hdistance problem.step)
      exact ⟨last, records, hrestarts, of_decide_eq_true converged, rfl⟩
  | none =>
      have hstrategy := strategy_of_loop?_eq_none hloop finite
      have hintegrator := keeps (by simp [hstrategy]) problem.flow
      rw [run, hstrategy] at returns
      exact problem.relax_restarts hintegrator returns converged

/-! ### Searches that end where they begin -/

omit [Scalar.Lawful α]

/-- A loop that does not go on from where it begins ends there. -/
theorem Backend.run_of_not_continues {distance : α} (h : backend.loop? problem = some loop)
    (hdistance : initialDistance problem = .ok distance)
    (stops : loop.continues (.start problem.start problem.step distance) = false) :
    backend.run calls problem =
      (Progress.start problem.start problem.step distance).finish problem.tol [] := by
  rw [run_of_loop? h, hdistance, Traced.lift_eq, Traced.bind_ok, Loop.search,
    Loop.run_of_not_continues stops]
  rfl

/-- A search that begins within its tolerance ends there. -/
theorem Backend.run_of_within [Scalar.Ordered α] {distance : α}
    (finite : backend.strategy = .pseudoTransient → Scalar.isInf problem.step = false)
    (hdistance : initialDistance problem = .ok distance) (within : distance ≤ problem.tol) :
    ∃ step, backend.run calls problem =
      (Progress.start problem.start step distance).finish problem.tol [] := by
  cases hloop : backend.loop? problem with
  | some loop =>
      have stops : loop.continues (.start problem.start problem.step distance) = false := by
        rw [Loop.not_continues_iff, tol_of_loop? hloop]
        exact fun goes => Scalar.Ordered.not_le_of_lt goes.2 within
      exact ⟨problem.step, run_of_not_continues hloop hdistance stops⟩
  | none =>
      rw [run, strategy_of_loop?_eq_none hloop finite]
      exact ⟨0, Problem.relax_of_within hdistance within⟩

/-- A problem keeps what it was made of. -/
theorem Problem.parts_of_create {strategy : Strategy} {c : Config α} {r : Request α} {F : Field α}
    {start : Tensor α} (created : Problem.create strategy c r = .ok problem)
    (residual : r.residual = .function F) (initial : r.start = .ok start) :
    problem.residual = F ∧ problem.start = start ∧ problem.step = c.settings.step := by
  obtain ⟨F', jacobian, start', mask, hF, -, hstart, -, -, -, -, -, rfl⟩ :=
    create_eq_ok_iff.1 created
  cases hF.symm.trans residual
  cases hstart.symm.trans initial
  exact ⟨rfl, rfl, rfl⟩

/-- What a problem was made of makes another one from any state of the same shape at which the
residual has a value. -/
theorem Problem.create_startingAt {strategy : Strategy} {c : Config α} {r : Request α}
    {y value : Tensor α} (created : Problem.create strategy c r = .ok problem)
    (hshape : y.shape = problem.start.shape) (hvalue : problem.residual y = .ok value)
    (hfits : value.shape = y.shape) :
    Problem.create strategy c { r with start := .ok y } = .ok (problem.startingAt y) := by
  obtain ⟨F, jacobian, start, mask, hF, hjacobian, -, hstart, -, hmask, hanalytic, hcheck, rfl⟩ :=
    create_eq_ok_iff.1 created
  have hshape : y.shape = start.shape := hshape
  have hcheckStart : checkStart y = (.ok () : Except (Fault α) Unit) := by
    unfold checkStart at hstart ⊢
    rwa [hshape]
  have hleading : y.leading = start.leading := congrArg (·.headD 1) hshape
  rw [← hleading] at hmask
  exact create_eq_ok_iff.2 ⟨F, jacobian, y, mask, hF, hjacobian, rfl, hcheckStart,
    ⟨value, hvalue, hfits⟩, hmask, hanalytic, hcheck, rfl⟩

/-- A solve calls nobody and stays where it is. -/
structure Traced.Stays (solve : Traced α (Result α)) (y : Tensor α) (distance : α) : Prop where
  calls : callCount solve.notices = 0
  result : ∃ result, solve.result = .ok result ∧ result.state = y ∧ result.distance = distance ∧
    result.converged = true ∧ result.iterations = 0 ∧ result.accepted = 0 ∧ result.rejected = 0 ∧
    result.history = []

theorem EngineKind.report_stays {y : Tensor α} {step distance : α} (within : distance ≤ problem.tol)
    (kind : EngineKind) :
    (kind.report problem ((Progress.start y step distance).finish problem.tol [])).Stays y
      distance where
  calls := by
    rw [callCount_report]
    exact Nat.le_zero.1 (Progress.callsAtMost_finish _ _ _)
  result := ⟨_, rfl, rfl, rfl, decide_eq_true within, rfl, rfl, rfl, rfl⟩

/-- A solve that has converged is a fixed point: once more with the same settings, from the state
that was returned, calls nobody and returns that state at the same distance. -/
theorem Session.solve_again [Scalar.Lawful α] [Scalar.Ordered α] [Scalar.Transitive α]
    {s s' : Session α} {r : Request α} {o o' : Overrides α} {keep keep' : Bool} {c : Config α}
    {F : Field α} {start : Tensor α} {result : Result α} (effective : s.effective o = .ok c)
    (residual : r.residual = .function F) (initial : r.start = .ok start)
    (total : Total F [start.leading] [start.leading]) (keeps : s.backend.Keeps start.shape)
    (finite : s.backend.strategy = .pseudoTransient → Scalar.isInf c.settings.step = false)
    (returns : (s.solve r o keep).2.result = .ok result) (converged : result.converged = true)
    (effective' : s'.effective o' = .ok c)
    (interface : s'.interface.strategy = s.interface.strategy)
    (strategy : s'.backend.strategy = s.backend.strategy) :
    (s'.solve { r with start := .ok result.state } o' keep').2.Stays result.state
      result.distance := by
  obtain ⟨c', problem, outcome, hc, created, hrun, rfl⟩ := solve_result_eq_ok_iff.1 returns
  cases hc.symm.trans effective
  have wellFormed := Problem.wellFormed_of_create created
  obtain ⟨rfl, rfl, hstep⟩ := Problem.parts_of_create created residual initial
  rw [← hstep] at finite
  obtain ⟨p, history, hrestarts, hwithin, rfl⟩ := Backend.run_restarts keeps finite hrun converged
  have hshape : p.state.shape = [problem.start.leading] := hrestarts.shape.trans wellFormed.start
  obtain ⟨value, hvalue, hfits⟩ := total p.state hshape
  have created' := Problem.create_startingAt created hrestarts.shape hvalue
    (hfits.trans hshape.symm)
  rw [← interface] at created'
  rw [← strategy] at finite
  have hsolve : (s'.solve { r with start := .ok p.state } o' keep').2 = _ :=
    solve_of_create effective' created'
  obtain ⟨step, hrun'⟩ : ∃ step, s'.backend.run s'.calls (problem.startingAt p.state) =
      (Progress.start p.state step p.distance).finish problem.tol [] :=
    Backend.run_of_within finite hrestarts.distance hwithin
  rw [hrun'] at hsolve
  change (s'.solve { r with start := .ok p.state } o' keep').2.Stays p.state p.distance
  rw [hsolve]
  exact EngineKind.report_stays hwithin .steadyState

/-- The trial, and once more from where it ends. -/
theorem Session.trial_solved_again :
    ∃ result, (trial.solve (.identity 1) .empty false).2.result = .ok result ∧
      result.converged = true ∧
      (trial.solve { Request.identity 1 with start := .ok result.state } .empty false).2.Stays
        result.state result.distance := by
  obtain ⟨o, hrun, hconverged⟩ : ∃ o,
      ((Backend.mk .pseudoTransient .trial).run 0 (.identity .double 1)).result = .ok o ∧
        (Result.ofOutcome (.identity .double 1) o).converged = true :=
    exists_ok_of_toOption (by decide +kernel)
  have returns := trial_returns hrun
  have total : Total (Except.ok : Field Float) [1] [1] := fun y hy => ⟨y, rfl, hy⟩
  have keeps : trial.backend.Keeps [1] := fun hflows => absurd rfl hflows
  exact ⟨_, returns, hconverged, solve_again trial_effective rfl rfl total keeps
    (fun _ => by decide +kernel) returns hconverged trial_effective rfl rfl⟩

end Equilibrium
