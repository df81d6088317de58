import Equilibrium.Fault

/-!
How far a state is from a steady one.

The distance is the Euclidean length of the residual divided by the number of its components. The
squares are added in order, so an undefined component makes the distance undefined, and callers say
what they make of that. Only a vector has a length: a residual with several axes is refused before
anything is added.
-/

namespace Equilibrium

variable {α : Type} [Scalar α]

def sumSquares (xs : List α) : α :=
  xs.foldl (fun acc x => acc + x * x) 0

/-- The Euclidean length divided by the number of entries, which must not be zero. -/
def scaledNorm (v : Tensor α) : Except (Fault α) α :=
  if 1 < v.shape.length then .error .notVector
  else if v.leading = 0 then .error .divisionByZero
  else .ok (Scalar.sqrt (sumSquares v.entries) / Scalar.ofNat v.leading)

/-- The distance of a state, undefined where its residual is. -/
def residualDistance (F : Field α) (y : Tensor α) : Except (Fault α) α := do
  let value ← F y.atLeastVector
  scaledNorm value.atLeastVector

/-- The distance of a state, infinite where its residual is undefined. -/
def candidateDistance (F : Field α) (y : Tensor α) : Except (Fault α) α := do
  let distance ← residualDistance F y
  return Scalar.orInfinite distance

/-- The largest absolute value, undefined as soon as an entry is. -/
def largestOrUndefined (xs : List α) : α :=
  if xs.any Scalar.isNaN then Scalar.undefined
  else xs.foldl (fun acc x => Scalar.larger acc (Scalar.abs x)) 0

/-- The largest absolute value of finite entries, infinity if an entry is not finite. -/
def supNorm (xs : List α) : α :=
  if xs.all Scalar.isFinite then xs.foldl (fun acc x => Scalar.larger acc (Scalar.abs x)) 0
  else Scalar.infinity

end Equilibrium
