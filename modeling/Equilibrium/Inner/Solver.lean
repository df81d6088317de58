import Equilibrium.Log
import Equilibrium.Residual.Distance

/-!
Inner solvers.

An inner solver looks for a root of a function near a first guess. It comes from outside: all that
is known of it is what it answers to each call, and since it may keep a memory of its own, the
answer may depend on how many calls it had before. It reports a state and how far the function is
from zero there, and leaves it to the caller to be satisfied with that.

A numerical routine becomes an inner solver by one reading of its outcome: the distance is the
largest residual component in absolute value, infinite as soon as a component is not finite, and a
numerical breakdown counts as staying at the guess, infinitely far from a root.
-/

namespace Equilibrium

variable {α : Type} [Scalar α]

structure InnerCall (α : Type) where
  residual : Field α
  guess : Tensor α
  jacobian : Option (Field α)
  method : InnerMethod
  tol : α
  maxIterations : Int
  verbose : Bool

structure InnerAnswer (α : Type) where
  state : Tensor α
  distance : α

structure InnerReply (α : Type) where
  log : List (LogLine α)
  /-- The residual that the solver ended with, if it says. -/
  residual : Option (Tensor α)
  outcome : Except (Fault α) (InnerAnswer α)

/-- A solver, with the name by which a complaint about it calls it. -/
structure InnerSolver (α : Type) where
  name : String
  solve : Nat → InnerCall α → InnerReply α

/-! ### Numerical routines -/

/-- The limits that a routine works within. The first two methods count evaluations and stop on
relative changes; the others count iterations and stop on the residual itself. -/
inductive RoutineLimits (α : Type) where
  | trustRegion (evaluations : Int) (relative : α)
  | leastSquares (evaluations : Int) (relative : α)
  | residual (iterations : Int) (bound : α) (verbose : Bool)

/-- The limits of a call on a state of `n` components. One iteration of the first two methods stands
for `n + 1` evaluations: one for each column of a Jacobian, and the step itself. -/
def RoutineLimits.of (method : InnerMethod) (n : Int) (tol : α) (maxIterations : Int)
    (verbose : Bool) : RoutineLimits α :=
  let evaluations := maxIterations * (n + 1)
  let relative := Scalar.larger tol Scalar.epsilon
  match method with
  | .trustRegion => .trustRegion evaluations relative
  | .levenbergMarquardt => .leastSquares evaluations relative
  | .newtonKrylov | .broyden => .residual maxIterations tol verbose

structure RoutineAnswer (α : Type) where
  point : Tensor α
  residual : List α
  success : Bool
  /-- How often it evaluated the function, or how many rounds it went if those are limited. -/
  evaluations : Nat

/-- A numerical routine, which may fail in any way. -/
abbrev Routine (α : Type) :=
  RoutineLimits α → InnerCall α → Except (Fault α) (RoutineAnswer α)

def InnerReply.ofRoutine (call : InnerCall α) :
    Except (Fault α) (RoutineAnswer α) → InnerReply α
  | .ok answer =>
    let distance := supNorm answer.residual
    let state := match answer.point.reshape? call.guess.shape with
      | some point => .ok ⟨point, distance⟩
      | none => .error (.unfillable answer.point.size call.guess.shape)
    ⟨[.innerSolve call.verbose call.method answer.success answer.evaluations distance], none, state⟩
  | .error fault =>
    if fault.isBreakdown then
      ⟨[.innerBreakdown call.method fault], none, .ok ⟨call.guess, Scalar.infinity⟩⟩
    else ⟨[], none, .error fault⟩

def InnerSolver.ofRoutine (name : String) (routine : Routine α) : InnerSolver α where
  name := name
  solve _ call :=
    if call.jacobian.isSome && !call.method.acceptsJacobian then
      ⟨[], none, .error (.jacobianUnused call.method)⟩
    else
      let limits :=
        RoutineLimits.of call.method call.guess.size call.tol call.maxIterations call.verbose
      .ofRoutine call (routine limits call)

end Equilibrium
