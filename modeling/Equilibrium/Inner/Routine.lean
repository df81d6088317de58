import Equilibrium.Inner.Broyden
import Equilibrium.Inner.Krylov
import Equilibrium.Inner.LevenbergMarquardt
import Equilibrium.Inner.TrustRegion

/-!
The root solver of a caller who brings none.

Each method has its own idea of the values that it takes, which is checked on the values at the
guess. The methods with a Jacobian see the guess as a vector, whatever its shape, and want as many
values as unknowns, or with damped least squares at least as many; the others keep the shape of the
guess. A single unknown is let through with values of any shape, and then only their number counts.
-/

namespace Equilibrium

variable {α : Type} [Scalar α]

/-! ### Values at the guess -/

def checkValueAxes (value : Tensor α) : Except (Fault α) Unit :=
  if 1 < value.shape.length then .error .tooManyAxes else .ok ()

def checkDerivativeAxes (size : Nat) (value : Tensor α) : Except (Fault α) Unit :=
  match value.shape with
  | [] => .error .bareDerivative
  | [_] | [_, _] => if value.size = size then .ok () else .error .changedSize
  | _ => .error .tooManyAxes

def mostEvaluations : Int := Int32.maxValue.toInt

def checkEvaluations (limit : Int) : Except (Fault α) Unit :=
  if -mostEvaluations ≤ limit ∧ limit ≤ mostEvaluations then .ok () else .error .beyondKind

namespace InnerCall

/-- The function of a call on vectors. -/
def onVectors (call : InnerCall α) : ListField α := fun x => do
  return (← call.residual (.vector x)).entries

/-- The function of a call on components of states in the shape of the guess. -/
def onComponents (call : InnerCall α) : ListField α := fun x => do
  match (Tensor.vector x).reshape? call.guess.shape with
  | some y => return (← call.residual y).entries
  | none => throw (.unfillable x.length call.guess.shape)

def firstDerivative (call : InnerCall α) : Except (Fault α) (Option (Tensor α)) :=
  call.jacobian.mapM fun J => J (.vector call.guess.entries)

/-- The answer that stays at the guess. -/
def stay (call : InnerCall α) (value : Tensor α) : RoutineAnswer α :=
  ⟨.vector call.guess.entries, value.entries, false, 1⟩

end InnerCall

/-! ### Methods -/

def trustRegionRoutine (evaluations : Int) (relative : α) (call : InnerCall α) :
    Except (Fault α) (RoutineAnswer α) := do
  let x := call.guess.entries
  let n := x.length
  let value ← call.residual (.vector x)
  if n ≠ 1 ∧ value.atLeastVector.shape ≠ [n] then throw .unequalLength
  let derivative ← call.firstDerivative
  if n ≠ 1 ∧ derivative.any fun d => d.shape ≠ [n, n] then throw .unequalLength
  checkEvaluations evaluations
  checkValueAxes value
  if n = 0 ∨ value.size = 0 then return call.stay value
  if value.size ≠ n then throw .changedSize
  derivative.forM (checkDerivativeAxes (n * n))
  let jacobian := SearchJacobian.of call.onVectors call.jacobian n
  let start ← Region.start jacobian ⟨x, value.entries, euclidean value.entries⟩
  let limit := evaluationLimit evaluations n call.jacobian.isSome
  let (final, success) ← Region.search call.onVectors jacobian relative limit limit start
  return ⟨.vector final.point.x, final.point.value, success, final.evaluations⟩

def leastSquaresRoutine (evaluations : Int) (relative : α) (call : InnerCall α) :
    Except (Fault α) (RoutineAnswer α) := do
  let x := call.guess.entries
  let n := x.length
  let value ← call.residual (.vector x)
  let m := value.leading
  if m < n then throw .unequalLength
  let derivative ← call.firstDerivative
  if m ≠ 1 ∧ n ≠ 1 ∧ derivative.any fun d => d.shape ≠ [m, n] then throw .unequalLength
  checkEvaluations evaluations
  checkValueAxes value
  derivative.forM (checkDerivativeAxes (n * m))
  if n = 0 then return call.stay value
  let jacobian := SearchJacobian.of call.onVectors call.jacobian n
  let start ← Damped.start jacobian ⟨x, value.entries, euclidean value.entries⟩
  let limit := evaluationLimit evaluations n call.jacobian.isSome
  let (final, success) ← Damped.search call.onVectors jacobian relative limit limit start
  return ⟨.vector final.point.x, final.point.value, success, final.evaluations⟩

def descentRoutine {σ : Type} (directions : Directions σ α)
    (first : SearchPoint α → Except (Fault α) σ) (iterations : Int) (bound : α)
    (call : InnerCall α) : Except (Fault α) (RoutineAnswer α) := do
  let point ← SearchPoint.at call.onComponents call.guess.entries
  checkFinite point.value
  let state ← first point
  let start : Descent σ α := ⟨point, state, firstForcing, 0⟩
  let (final, success) ← Descent.search call.onComponents directions bound iterations.toNat start
  return ⟨.vector final.point.x, final.point.value, success, final.rounds⟩

def checkEntries (point : SearchPoint α) : Except (Fault α) Unit :=
  if point.x.isEmpty || point.value.isEmpty then .error .nothingLargest else .ok ()

def rootRoutine : Routine α := fun limits call =>
  match limits with
  | .trustRegion evaluations relative => trustRegionRoutine evaluations relative call
  | .leastSquares evaluations relative => leastSquaresRoutine evaluations relative call
  | .residual iterations bound _ =>
    if call.method = .broyden then
      descentRoutine broydenDirections InverseModel.start iterations bound call
    else descentRoutine (krylovDirections call.onComponents) checkEntries iterations bound call

end Equilibrium
