import Equilibrium.Search.PseudoTransient
import Equilibrium.Search.Relaxation

/-!
Backends.

A backend is a strategy together with the collaborators that it may call. An integrator is made for
each problem from the method and the tolerances that the problem asks for; one that comes from
outside takes no notice of them.
-/

namespace Equilibrium

variable {α : Type} [Scalar α]

structure Toolbox (α : Type) where
  solver : InnerSolver α
  integrator : FlowMethod α → Integrator α

structure Backend (α : Type) where
  strategy : Strategy
  tools : Toolbox α

/-- Search for a steady state of a problem, after so many calls to the collaborators. -/
def Backend.run (backend : Backend α) (calls : Nat) (problem : Problem α) :
    Traced α (Outcome α) :=
  match backend.strategy with
  | .pseudoTransient => problem.continuePseudoTransient backend.tools.solver calls
  | .horizons => problem.continueHorizons (backend.tools.integrator problem.flow) calls
  | .relaxation => problem.relax (backend.tools.integrator problem.flow) calls

end Equilibrium
