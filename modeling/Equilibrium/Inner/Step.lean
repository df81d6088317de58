import Equilibrium.Residual.Implicit
import Equilibrium.Trace

/-!
One implicit step.

The step's equation is set up around the committed state and handed to the inner solver, which
starts from that state. The Jacobian goes along exactly when the step is to use one, shifted like
the residual; that it is missing is found before the solver is asked.
-/

namespace Equilibrium

variable {α : Type} [Scalar α]

structure InnerPlan (α : Type) where
  method : InnerMethod
  derivative : Derivative
  tol : α
  maxIterations : Int
  verbose : Bool

def InnerPlan.standard : InnerPlan α := ⟨.trustRegion, .finite, 1e-9, 25, false⟩

def stepJacobian (jacobian : Option (Field α)) (step : α) (marking : Marking)
    (derivative : Derivative) : Except (Fault α) (Option (Field α)) :=
  match derivative, jacobian with
  | .finite, _ => .ok none
  | .analytic, some J => .ok (some (implicitJacobian J step marking))
  | .analytic, none => .error .jacobianMissing

/-- The call that an implicit step of the given size from the state `x` makes. -/
def stepCall (F : Field α) (x : Tensor α) (step : α) (marking : Marking)
    (jacobian : Option (Field α)) (plan : InnerPlan α) : Except (Fault α) (InnerCall α) := do
  let residual ← implicitResidual F x step marking
  let jacobian ← stepJacobian jacobian step marking plan.derivative
  return ⟨residual, x, jacobian, plan.method, plan.tol, plan.maxIterations, plan.verbose⟩

def implicitStep (solver : InnerSolver α) (calls : Nat) (F : Field α) (x : Tensor α) (step : α)
    (marking : Marking) (jacobian : Option (Field α)) (plan : InnerPlan α) :
    Traced α (InnerAnswer α) := do
  let call ← Traced.lift (stepCall F x step marking jacobian plan)
  solver.ask calls call

end Equilibrium
