import Equilibrium.Proofs.Search.Lockstep
import Equilibrium.Proofs.Search.Single
import Equilibrium.Proofs.Session.Failure
import Equilibrium.Proofs.Soundness

/-!
Settings that a strategy leaves alone.

One record holds the settings of every strategy, and one problem is made of it whatever the
strategy. So it takes a proof that a search goes by its own settings only. Two solves whose
configurations agree in them, with the same request and the same collaborators, return the same
result or fail in the same way. Which settings those are depends on the strategy, and on whether
pseudo-transient continuation has a first step to continue from; what is given in the place of a
setting left open counts, not that it was left open.

An inner solver is told how talkative to be. That is no setting of a search, so its answers must not
depend on it.
-/

namespace Equilibrium

variable {α : Type} [Scalar α]

/-! ### What counts -/

/-- The answers of a solver do not depend on how talkative it is asked to be. -/
def InnerSolver.IgnoresVerbosity (solver : InnerSolver α) : Prop :=
  ∀ calls call verbose,
    (solver.solve calls { call with verbose := verbose }).outcome =
      (solver.solve calls call).outcome

/-- The integrator comes from outside, whatever method is asked for. -/
def Toolbox.Injected (tools : Toolbox α) : Prop :=
  ∃ integrator, ∀ m, tools.integrator m = integrator

namespace Config

variable (c c' : Config α)

structure SameSteps : Prop where
  step : c'.settings.step = c.settings.step
  maxIterations : c'.settings.maxIterations = c.settings.maxIterations
  tol : c'.settings.tol = c.settings.tol
  scale : c'.settings.scale = c.settings.scale
  stepMin : c'.settings.stepMin = c.settings.stepMin
  stepMax : c'.settings.stepMax = c.settings.stepMax
  backoff : c'.settings.backoff = c.settings.backoff

structure SameRoots : Prop where
  innerMethod : c'.innerMethod = c.innerMethod
  derivative : c'.derivative = c.derivative

structure SameFlows : Prop where
  name : c'.settings.flowMethod = c.settings.flowMethod
  rtol : c'.settings.flowRtol = c.settings.flowRtol
  tolerance : c'.flowTolerance = c.flowTolerance

/-- Two configurations agree in the settings that a backend uses. -/
inductive Agree (tools : Toolbox α) : Strategy → Prop
  | continuation (finite : Scalar.isInf c.settings.step = false) (steps : c.SameSteps c')
      (roots : c.SameRoots c')
      (innerIterations : c'.settings.innerIterations = c.settings.innerIterations)
      (acceptanceTol : c'.acceptanceTol = c.acceptanceTol) : Agree tools .pseudoTransient
  | direct (infinite : Scalar.isInf c.settings.step = true)
      (infinite' : Scalar.isInf c'.settings.step = true)
      (tol : c'.settings.tol = c.settings.tol)
      (maxIterations : c'.settings.maxIterations = c.settings.maxIterations)
      (roots : c.SameRoots c') : Agree tools .pseudoTransient
  | horizons (steps : c.SameSteps c') (flowSteps : c'.settings.flowSteps = c.settings.flowSteps)
      (flows : tools.Injected ∨ c.SameFlows c') : Agree tools .horizons
  | relaxation (tol : c'.settings.tol = c.settings.tol)
      (horizon : c'.settings.horizon = c.settings.horizon)
      (flowSteps : c'.settings.flowSteps = c.settings.flowSteps)
      (flows : tools.Injected ∨ c.SameFlows c') : Agree tools .relaxation

end Config

/-! ### Loops -/

namespace Loop

/-- Two loops do the same, whatever they make known of it. -/
structure Alike (loop loop' : Loop α) : Prop where
  residual : loop'.residual = loop.residual
  propose : ∀ calls x step, (loop'.propose calls x step).result = (loop.propose calls x step).result
  admits : loop'.admits = loop.admits
  law : loop'.law = loop.law
  tol : loop'.tol = loop.tol
  stepMin : loop'.stepMin = loop.stepMin

variable {loop loop' : Loop α}

theorem Alike.continues (alike : loop.Alike loop') (p : Progress α) :
    loop'.continues p = loop.continues p := by
  rw [Loop.continues, Loop.continues, alike.stepMin, alike.tol]

theorem Alike.iterate (alike : loop.Alike loop') (calls : Nat) (p : Progress α) :
    (loop'.iterate calls p).result = (loop.iterate calls p).result := by
  have hpropose := alike.propose (calls + p.iteration) p.state p.step
  cases hproposed : (loop.propose (calls + p.iteration) p.state p.step).result with
  | error fault =>
      rw [hproposed] at hpropose
      rw [Loop.iterate, Loop.iterate, Traced.bind_result_of_error hproposed,
        Traced.bind_result_of_error hpropose]
  | ok candidate =>
      rw [hproposed] at hpropose
      rw [iterate_result_of_proposed hproposed, iterate_result_of_proposed hpropose]
      simp only [settled, commits, alike.residual, alike.admits, alike.law]

theorem Alike.run (alike : loop.Alike loop') (calls budget : Nat) (p : Progress α) :
    (loop'.run calls budget p).result = (loop.run calls budget p).result := by
  induction budget generalizing p with
  | zero => rfl
  | succ budget ih =>
      cases goes : loop.continues p with
      | false => rw [run_of_not_continues goes, run_of_not_continues (alike.continues p ▸ goes)]
      | true =>
          rw [run_succ_result goes, run_succ_result (alike.continues p ▸ goes), alike.iterate]
          simp only [ih]

end Loop

/-! ### Searches -/

/-- Two problems ask for the same steady state, from the same start. -/
structure Problem.SameTask (problem problem' : Problem α) : Prop where
  residual : problem'.residual = problem.residual
  start : problem'.start = problem.start
  mask : problem'.mask = problem.mask
  jacobian : problem'.jacobian = problem.jacobian

section

variable {problem problem' : Problem α} {calls : Nat}

theorem Problem.SameTask.initialDistance_eq (task : problem.SameTask problem') :
    initialDistance problem' = initialDistance problem := by
  rw [initialDistance, initialDistance, task.residual, task.start]

/-- Searches that loop alike return the same. -/
theorem Problem.SameTask.run_result {backend : Backend α} {loop loop' : Loop α}
    (task : problem.SameTask problem') (h : backend.loop? problem = some loop)
    (h' : backend.loop? problem' = some loop') (alike : loop.Alike loop')
    (step : problem'.step = problem.step)
    (maxIterations : problem'.maxIterations = problem.maxIterations)
    (tol : problem'.tol = problem.tol) :
    (backend.run calls problem').result = (backend.run calls problem).result := by
  rw [Backend.run_result_of_loop? h, Backend.run_result_of_loop? h', task.initialDistance_eq,
    task.start, step, maxIterations, tol]
  simp only [alike.run]

/-- A step's equation is solved alike, however talkative the solver is to be. -/
theorem implicitStep_result_congr {solver : InnerSolver α} (quiet : solver.IgnoresVerbosity)
    (calls : Nat) (F : Field α) (x : Tensor α) (step : α) (marking : Marking)
    (jacobian : Option (Field α)) (plan : InnerPlan α) (verbose : Bool) :
    (implicitStep solver calls F x step marking jacobian { plan with verbose := verbose }).result =
      (implicitStep solver calls F x step marking jacobian plan).result := by
  simp only [implicitStep, stepCall, Traced.bind_result, Traced.lift_eq]
  cases implicitResidual F x step marking with
  | error fault => rfl
  | ok G =>
      cases stepJacobian jacobian step marking plan.derivative with
      | error fault => rfl
      | ok J =>
          exact quiet calls ⟨G, x, J, plan.method, plan.tol, plan.maxIterations, plan.verbose⟩
            verbose

theorem Problem.SameTask.propose_result (task : problem.SameTask problem')
    {solver : InnerSolver α} (quiet : solver.IgnoresVerbosity) {plan plan' : InnerPlan α}
    (hplan : plan' = { plan with verbose := plan'.verbose }) (calls : Nat) (x : Tensor α)
    (step : α) :
    (problem'.propose solver plan' calls x step).result =
      (problem.propose solver plan calls x step).result := by
  simp only [Problem.propose, Traced.bind_result]
  rw [hplan, implicitStep_result_congr quiet, task.residual, task.mask, task.jacobian]

theorem Problem.SameTask.solveDirectly_result (task : problem.SameTask problem')
    {solver : InnerSolver α} (quiet : solver.IgnoresVerbosity)
    (hplan : problem'.directPlan = { problem.directPlan with verbose := problem'.verbose })
    (tol : problem'.tol = problem.tol) :
    (problem'.solveDirectly solver calls).result = (problem.solveDirectly solver calls).result := by
  simp only [Problem.solveDirectly, Traced.bind_result]
  rw [task.propose_result quiet hplan, task.start]
  simp only [Problem.directProgress, Problem.directRecord, tol]

theorem Problem.SameTask.relax_result (task : problem.SameTask problem')
    (integrator : Integrator α) (tol : problem'.tol = problem.tol)
    (horizon : problem'.horizon = problem.horizon)
    (flowSteps : problem'.flowSteps = problem.flowSteps) :
    (problem'.relax integrator calls).result = (problem.relax integrator calls).result := by
  rw [Problem.relax, Problem.relax, task.initialDistance_eq]
  cases initialDistance problem with
  | error fault => rfl
  | ok distance =>
      simp only [Traced.lift_eq, Traced.bind_ok, Problem.flowCall, task.residual, task.start,
        task.jacobian, tol, horizon, flowSteps]
      split
      · rfl
      · simp only [Traced.bind_result, Traced.tell_eq]

end

/-! ### Settings that agree -/

section

variable {c c' : Config α} {tools : Toolbox α} (F : Field α) (y : Tensor α) (mask : Mask)
  (J : Option (Field α))

theorem Toolbox.integrator_assemble (flows : tools.Injected ∨ c.SameFlows c') :
    tools.integrator (Problem.assemble c' F y mask J).flow =
      tools.integrator (Problem.assemble c F y mask J).flow := by
  obtain ⟨integrator, injected⟩ | same := flows
  · rw [injected, injected]
  · simp only [Problem.assemble, same.name, same.rtol, same.tolerance]

theorem Config.SameSteps.stepLaw_eq (steps : c.SameSteps c') :
    (Problem.assemble c' F y mask J).stepLaw = (Problem.assemble c F y mask J).stepLaw := by
  simp only [Problem.stepLaw, Problem.assemble, steps.scale, steps.backoff, steps.stepMax]

/-- A backend searches alike with configurations that agree in the settings that it uses. -/
theorem Config.Agree.run_result {strategy : Strategy} (agree : c.Agree c' tools strategy)
    (quiet : tools.solver.IgnoresVerbosity) (calls : Nat) :
    ((Backend.mk strategy tools).run calls (.assemble c' F y mask J)).result =
      ((Backend.mk strategy tools).run calls (.assemble c F y mask J)).result := by
  have task : (Problem.assemble c F y mask J).SameTask (.assemble c' F y mask J) :=
    ⟨rfl, rfl, rfl, rfl⟩
  cases agree with
  | continuation finite steps roots innerIterations acceptanceTol =>
      have finite' : Scalar.isInf c'.settings.step = false := by rw [steps.step, finite]
      refine task.run_result (Backend.loop?_pseudoTransient tools finite)
        (Backend.loop?_pseudoTransient tools finite') ?_ steps.step steps.maxIterations steps.tol
      constructor
      case residual => rfl
      case propose =>
        refine task.propose_result quiet ?_
        simp only [Problem.innerPlan, Problem.assemble, roots.innerMethod, roots.derivative,
          innerIterations, acceptanceTol]
      case admits => exact congrArg (fun tol distance => decide (distance ≤ tol)) acceptanceTol
      case law => exact steps.stepLaw_eq F y mask J
      case tol => exact steps.tol
      case stepMin => exact steps.stepMin
  | direct infinite infinite' tol maxIterations roots =>
      cases hdistance : initialDistance (Problem.assemble c F y mask J) with
      | error fault =>
          rw [Backend.run_of_initialDistance _ _ hdistance,
            Backend.run_of_initialDistance _ _ (task.initialDistance_eq.trans hdistance)]
      | ok distance =>
          rw [Backend.run_of_infinite tools calls infinite hdistance,
            Backend.run_of_infinite tools calls infinite'
              (task.initialDistance_eq.trans hdistance)]
          refine task.solveDirectly_result quiet ?_ tol
          simp only [Problem.directPlan, Problem.assemble, roots.innerMethod, roots.derivative, tol,
            maxIterations]
  | horizons steps flowSteps flows =>
      refine task.run_result (Backend.loop?_horizons tools _) (Backend.loop?_horizons tools _) ?_
        steps.step steps.maxIterations steps.tol
      constructor
      case residual => rfl
      case propose =>
        intro calls x step
        rw [Toolbox.integrator_assemble F y mask J flows]
        simp only [Problem.horizonLoop, Problem.proposeByFlow, Problem.flowCall, Problem.assemble,
          flowSteps, steps.tol]
      case admits => rfl
      case law => exact steps.stepLaw_eq F y mask J
      case tol => exact steps.tol
      case stepMin => exact steps.stepMin
  | relaxation tol horizon flowSteps flows =>
      change (Problem.relax _ (tools.integrator _) calls).result =
        (Problem.relax _ (tools.integrator _) calls).result
      rw [Toolbox.integrator_assemble F y mask J flows]
      exact task.relax_result _ tol horizon flowSteps

end

/-! ### Solves -/

/-- Every search that returns reports where it stands, and leaves nothing out. -/
theorem Backend.exists_outcome {backend : Backend α} {problem : Problem α} {calls : Nat}
    {o : Outcome α} (returns : (backend.run calls problem).result = .ok o) :
    ∃ (p : Progress α) (history : List (Record α)), o = p.outcome problem.tol history := by
  cases hloop : backend.loop? problem with
  | some loop =>
      obtain ⟨-, last, history, -, -, -, -, h⟩ := (run_result_eq_ok_iff_of_loop? hloop).1 returns
      exact ⟨last, history, h⟩
  | none =>
      obtain ⟨strategy, tools⟩ := backend
      obtain ⟨rfl, infinite⟩ | rfl := loop?_eq_none_iff.1 hloop
      · cases hdistance : initialDistance problem with
        | error fault =>
            rw [run_of_initialDistance _ _ hdistance] at returns
            cases returns
        | ok distance =>
            rw [run_of_infinite tools calls infinite hdistance] at returns
            obtain ⟨answer, -, h⟩ := Problem.solveDirectly_result_eq_ok_iff.1 returns
            exact ⟨_, _, h⟩
      · obtain ⟨p, history, -, h⟩ := Problem.relax_measured returns
        exact ⟨p, history, h⟩

/-- So what an engine makes of a search is told by the search, and not by the problem. -/
theorem Backend.report_result_congr {backend : Backend α} {problem problem' : Problem α}
    {calls : Nat} (kind : EngineKind)
    (h : (backend.run calls problem').result = (backend.run calls problem).result) :
    (kind.report problem' (backend.run calls problem')).result =
      (kind.report problem (backend.run calls problem)).result := by
  rw [kind.report_result, kind.report_result, h]
  cases hrun : (backend.run calls problem).result with
  | error fault => rfl
  | ok o =>
      obtain ⟨p, history, rfl⟩ := exists_outcome hrun
      rfl

/-- Two solves of one request by the same collaborators return the same result, or fail in the same
way, if their configurations agree in the settings that the strategy uses. -/
theorem Session.solve_ignores_unused {s s' : Session α} {c c' : Config α} {r : Request α}
    {o o' : Overrides α} {problem problem' : Problem α}
    (backend : s'.backend = s.backend) (calls : s'.calls = s.calls)
    (effective : s.effective o = .ok c) (effective' : s'.effective o' = .ok c')
    (created : Problem.create s.interface.strategy c r = .ok problem)
    (created' : Problem.create s'.interface.strategy c' r = .ok problem')
    (quiet : s.backend.tools.solver.IgnoresVerbosity)
    (agree : c.Agree c' s.backend.tools s.backend.strategy) (keep keep' : Bool) :
    (s'.solve r o' keep').2.result = (s.solve r o keep).2.result := by
  rw [solve_of_create effective created, solve_of_create effective' created', backend, calls]
  refine Backend.report_result_congr _ ?_
  obtain ⟨F, J, y, mask, hF, hJ, hy, -, -, hmask, -, -, rfl⟩ := Problem.create_eq_ok_iff.1 created
  obtain ⟨F', J', y', mask', hF', hJ', hy', -, -, hmask', -, -, rfl⟩ :=
    Problem.create_eq_ok_iff.1 created'
  cases hF.symm.trans hF'
  cases hJ.symm.trans hJ'
  cases hy.symm.trans hy'
  cases hmask.symm.trans hmask'
  exact agree.run_result F y mask J quiet s.calls

def Config.distracted : Config Float where
  settings := { Settings.standard with
    verbose := false
    innerVerbose := true
    flowMethod := "RK45"
    flowRtol := 1e-3
    flowAtol := some 1
    horizon := 5
    flowSteps := 7 }
  valid := Option.isNone_iff_eq_none.1 (by decide +kernel)

def Session.distracted : Session Float :=
  ⟨.distracted, ⟨.pseudoTransient, .trial⟩, .ofStrategy .pseudoTransient, none, 0⟩

theorem Session.trial_ignores_unused :
    ∃ result, (trial.solve (.identity 1) .empty false).2.result = .ok result ∧
      (distracted.solve (.identity 1) .empty true).2.result = .ok result := by
  obtain ⟨o, hrun, -⟩ := Backend.trial_returns .pseudoTransient (by decide)
  have returns := trial_returns hrun
  have backend : distracted.backend = trial.backend := rfl
  have effective : distracted.effective .empty = .ok .distracted :=
    Config.merge_empty .distracted
  have created := Problem.create_identity (c := Config.double) .pseudoTransient
    (by decide +kernel) 1
  have created' := Problem.create_identity (c := Config.distracted) .pseudoTransient
    (by decide +kernel) 1
  have agree : Config.double.Agree .distracted .trial .pseudoTransient :=
    .continuation (by decide +kernel) ⟨rfl, rfl, rfl, rfl, rfl, rfl, rfl⟩ ⟨rfl, rfl⟩ rfl rfl
  have same := solve_ignores_unused backend rfl trial_effective effective created created'
    (fun _ _ _ => rfl) agree false true
  exact ⟨_, returns, same.trans returns⟩

end Equilibrium
