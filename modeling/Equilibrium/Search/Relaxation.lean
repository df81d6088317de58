import Equilibrium.Search.Horizons

/-!
Relaxation to a steady state.

A single integration towards the horizon of the problem, stopped as soon as the state stands still.
A problem that starts inside the tolerance needs no integration, and then its result says that no
iteration was performed and the step is zero.
-/

namespace Equilibrium

variable {α : Type} [Scalar α]

def Trajectory.progress (state : Tensor α) (time distance : α) : Progress α :=
  { Progress.start state time distance with iteration := 1, accepted := 1 }

def Trajectory.record (time distance : α) : Record α :=
  ⟨1, time, distance, Scalar.undefined, 1, true⟩

def Problem.relax (problem : Problem α) (integrator : Integrator α) (calls : Nat) :
    Traced α (Outcome α) := do
  let distance ← Traced.lift (initialDistance problem)
  if distance ≤ problem.tol then
    (Progress.start problem.start 0 distance).finish problem.tol []
  else
    let trajectory ← integrator.ask calls (problem.flowCall problem.start problem.horizon)
    let state ← Traced.lift trajectory.finalState
    let distance ← Traced.lift (candidateDistance problem.residual state)
    let time ← Traced.lift trajectory.finalTime
    let record := Trajectory.record time distance
    Traced.tell [.line (record.line problem.verbose), .iterated 1 state distance]
    (Trajectory.progress state time distance).finish problem.tol [record]

end Equilibrium
