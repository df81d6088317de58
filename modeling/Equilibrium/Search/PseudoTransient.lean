import Equilibrium.Inner.Step
import Equilibrium.Search.Loop

/-!
Pseudo-transient continuation.

Every outer iteration takes one implicit step from the committed state. A step whose inner solve
comes within the inner tolerance is committed, if its residual is defined, and the step grows; any
other is discarded and the step shrinks. With an infinite first step there is nothing to continue:
one inner solve of the plain residual, to the outer tolerance, is the whole search.
-/

namespace Equilibrium

variable {α : Type} [Scalar α]

def Problem.innerPlan (problem : Problem α) : InnerPlan α where
  method := problem.method
  derivative := problem.derivative
  tol := problem.innerTol
  maxIterations := problem.innerIterations
  verbose := problem.innerVerbose

/-- How the steady equation of a problem is solved directly, with at least one iteration. -/
def Problem.directPlan (problem : Problem α) : InnerPlan α where
  method := problem.method
  derivative := problem.derivative
  tol := problem.tol
  maxIterations := max problem.maxIterations 1
  verbose := problem.verbose

/-- Take one implicit step of a problem and check that a state comes back. -/
def Problem.propose (problem : Problem α) (solver : InnerSolver α) (plan : InnerPlan α)
    (calls : Nat) (x : Tensor α) (step : α) : Traced α (Candidate α) := do
  let answer ← implicitStep solver calls problem.residual x step (.ofMask problem.mask)
    problem.jacobian plan
  if answer.state.shape ≠ x.shape then
    throw (.candidateShape solver.name answer.state.shape x.shape)
  return ⟨answer.state, answer.distance⟩

def Problem.pseudoTransientLoop (problem : Problem α) (solver : InnerSolver α) : Loop α where
  residual := problem.residual
  propose := problem.propose solver problem.innerPlan
  admits := fun distance => distance ≤ problem.innerTol
  law := problem.stepLaw
  tol := problem.tol
  stepMin := problem.stepMin
  verbose := problem.verbose

def Problem.directProgress (problem : Problem α) (answer : Candidate α) : Progress α :=
  let accepted : Bool := answer.innerDistance ≤ problem.tol
  { state := answer.state
    step := Scalar.infinity
    coef := 1
    distance := answer.innerDistance
    iteration := 1
    accepted := accepted.toNat
    rejected := (!accepted).toNat }

def Problem.directRecord (problem : Problem α) (answer : Candidate α) : Record α where
  iteration := 1
  step := Scalar.infinity
  distance := answer.innerDistance
  innerDistance := answer.innerDistance
  coef := 1
  accepted := answer.innerDistance ≤ problem.tol

def Problem.solveDirectly (problem : Problem α) (solver : InnerSolver α) (calls : Nat) :
    Traced α (Outcome α) := do
  let answer ← problem.propose solver problem.directPlan calls problem.start Scalar.infinity
  Traced.tell [.iterated 1 answer.state answer.innerDistance]
  (problem.directProgress answer).finish problem.tol [problem.directRecord answer]

def Problem.continuePseudoTransient (problem : Problem α) (solver : InnerSolver α) (calls : Nat) :
    Traced α (Outcome α) := do
  let distance ← Traced.lift (initialDistance problem)
  if Scalar.isInf problem.step then problem.solveDirectly solver calls
  else (problem.pseudoTransientLoop solver).search calls problem distance

end Equilibrium
