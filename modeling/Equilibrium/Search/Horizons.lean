import Equilibrium.Search.Loop

/-!
Continuation over growing horizons.

The same loop as pseudo-transient continuation, with an integration over the length of the step in
the place of an implicit step. The integration stops early at a steady state. There is no inner
distance, so every candidate with a finite distance is committed.
-/

namespace Equilibrium

variable {α : Type} [Scalar α]

/-- The call that integrates a problem from a state over a length of time. -/
def Problem.flowCall (problem : Problem α) (x : Tensor α) (length : α) : FlowCall α where
  residual := problem.residual
  start := x
  span := (0, length)
  jacobian := problem.jacobian
  event := some (steadyEvent problem.residual problem.tol)
  rule := some .stopping
  maxSteps := some problem.flowSteps

def Problem.proposeByFlow (problem : Problem α) (integrator : Integrator α) (calls : Nat)
    (x : Tensor α) (step : α) : Traced α (Candidate α) := do
  let trajectory ← integrator.ask calls (problem.flowCall x step)
  let state ← Traced.lift trajectory.finalState
  return ⟨state, Scalar.undefined⟩

def Problem.horizonLoop (problem : Problem α) (integrator : Integrator α) : Loop α where
  residual := problem.residual
  propose := problem.proposeByFlow integrator
  admits := fun _ => true
  law := problem.stepLaw
  tol := problem.tol
  stepMin := problem.stepMin
  verbose := problem.verbose

def Problem.continueHorizons (problem : Problem α) (integrator : Integrator α) (calls : Nat) :
    Traced α (Outcome α) := do
  let distance ← Traced.lift (initialDistance problem)
  (problem.horizonLoop integrator).search calls problem distance

end Equilibrium
