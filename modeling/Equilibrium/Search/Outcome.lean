import Equilibrium.Problem
import Equilibrium.Record
import Equilibrium.StepLaw
import Equilibrium.Trace

/-!
What a search comes to.

However a search goes about its iterations, it opens and closes in the same way. It opens with the
distance of the initial state, which must be defined. It closes by comparing the last distance with
the tolerance, telling its observers, and packing up its counters and its history.

Who receives an outcome takes nothing for granted but the state and the distance: a result is
complete even if the report is not.
-/

namespace Equilibrium

variable {α : Type} [Scalar α]

/-- What a search says of itself. -/
structure Report (α : Type) where
  converged : Option Bool
  iterations : Option Int
  accepted : Option Int
  rejected : Option Int
  finalStep : Option α
  history : Option (List (Record α))

structure Outcome (α : Type) where
  state : Tensor α
  distance : α
  report : Report α

structure Result (α : Type) where
  state : Tensor α
  /-- For a direct solve the one that the inner solver reported. -/
  distance : α
  converged : Bool
  iterations : Int
  accepted : Int
  rejected : Int
  finalStep : α
  history : List (Record α)

/-- The result of a problem, from an outcome. What the report leaves out is filled in from the
problem: its tolerance decides about convergence, its first step stands for the last. -/
def Result.ofOutcome (problem : Problem α) (o : Outcome α) : Result α where
  state := o.state
  distance := o.distance
  converged := o.report.converged.getD (o.distance ≤ problem.tol)
  iterations := o.report.iterations.getD 0
  accepted := o.report.accepted.getD 0
  rejected := o.report.rejected.getD 0
  finalStep := o.report.finalStep.getD problem.step
  history := o.report.history.getD []

def initialDistance (problem : Problem α) : Except (Fault α) α := do
  let distance ← residualDistance problem.residual problem.start
  if Scalar.isNaN distance then throw .undefinedStart
  return distance

def Progress.isSteady (p : Progress α) (tol : α) : Bool := p.distance ≤ tol

def Progress.closing (p : Progress α) (tol : α) : List (Notice α) :=
  if p.isSteady tol then [.accepted p.iteration p.state p.distance]
  else [.line (.unconverged p.distance tol p.iteration p.step),
    .failed p.iteration p.state p.distance]

def Progress.outcome (p : Progress α) (tol : α) (history : List (Record α)) : Outcome α where
  state := p.state
  distance := p.distance
  report :=
    { converged := some (p.isSteady tol)
      iterations := some p.iteration
      accepted := some p.accepted
      rejected := some p.rejected
      finalStep := some p.step
      history := some history }

def Progress.finish (p : Progress α) (tol : α) (history : List (Record α)) :
    Traced α (Outcome α) :=
  ⟨p.closing tol, .ok (p.outcome tol history)⟩

end Equilibrium
