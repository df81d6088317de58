import Equilibrium.Residual.Mask
import Equilibrium.Tensor.Spread

/-!
One implicit step as a root problem.

A backward Euler step of size `h` from `x` under `dy/dt = F(y)` is a root of
`G(y) = F(y) + (x - y) / h` in the differential components; an algebraic component keeps its
constraint `F(y) = 0`. The Jacobian of `G` is that of `F` with `1 / h` taken off the diagonal in the
differential components. An infinite step leaves both untouched: the very same functions are handed
on. A zero step divides by zero as soon as a differential component asks for it, and not before.
-/

namespace Equilibrium

-- The unit of a product of extents is the numeral, whatever else is known about numbers.
attribute [local instance (2000)] One.ofOfNat1

variable {α : Type} [Scalar α]

/-- Whether a step is so long that the time derivative vanishes from the step's equation. -/
def isUnregularized (step : α) : Bool := Scalar.isInf step

/-- Whether component `i` is algebraic; components that the mask does not reach are not touched. -/
def isFixed (mask : Mask) (i : Nat) : Bool := mask.getD i true

def dividesByZero (step : α) (mask : Mask) (n : Nat) : Bool :=
  step == 0 && (List.range n).any fun i => !isFixed mask i

/-- The term `(x - y) / h` added to the differential components of a residual. -/
def relaxed (step : α) (mask : Mask) (x y : List α) (value : Tensor α) :
    Except (Fault α) (Tensor α) :=
  if dividesByZero step mask value.leading then .error .divisionByZero
  else .ok <| value.mapIdx fun i f =>
    if isFixed mask i then f else f + (x.getD i 0 - y.getD i 0) / step

/-- The same for states of more axes, whose components are the slices along the first one. The
slices of `x` are repeated to fill those of `y`; a zero step makes their quotients infinite or
undefined. -/
def relaxedSlices (step : α) (mask : Mask) (x y value : Tensor α) :
    Except (Fault α) (Tensor α) := do
  let size := value.shape.tail.prod
  let fits := commonShape? x.shape.tail value.shape.tail = some value.shape.tail
  if !fits then throw (.unlikeShapes x.shape.tail value.shape.tail)
  let xs := x.rows.flatMap fun row => row.spread value.shape.tail
  return value.mapIdx fun k f =>
    if isFixed mask (k / size) then f else f + (xs.getD k 0 - y.entries.getD k 0) / step

/-- The residual of an implicit step of the given size from the state `x`. -/
def implicitResidual (F : Field α) (x : Tensor α) (step : α) (marking : Marking) :
    Except (Fault α) (Field α) :=
  if isUnregularized step then .ok F
  else do
    let x := x.atLeastVector
    let mask ← marking.mask x.leading
    return fun y => do
      let y := y.atLeastVector
      let value ← F y
      if value.shape ≠ y.shape then throw (.residualShape value.shape y.shape)
      else if 1 < value.shape.length then relaxedSlices step mask x y value
      else relaxed step mask x.entries y.entries value

def shifted (step : α) (mask : Mask) (n : Nat) (jac : Tensor α) : Except (Fault α) (Tensor α) :=
  if dividesByZero step mask n then .error .divisionByZero
  else .ok <| jac.mapIdx fun k a =>
    if k / n = k % n ∧ !isFixed mask (k / n) then a - 1 / step else a

/-- The Jacobian of the residual of an implicit step, from the Jacobian of the plain one. -/
def implicitJacobian (J : Field α) (step : α) (marking : Marking) : Field α :=
  if isUnregularized step then J
  else fun y => do
    let jac ← J y.atLeastVector
    match jac.shape with
    | [n, m] =>
      if n = m then
        let mask ← marking.mask n
        shifted step mask n jac
      else throw (.jacobianShape jac.shape)
    | _ => throw (.jacobianShape jac.shape)

@[simp] theorem implicitResidual_of_isUnregularized {step : α} (h : isUnregularized step = true)
    (F : Field α) (x : Tensor α) (marking : Marking) :
    implicitResidual F x step marking = .ok F := by
  simp [implicitResidual, h]

@[simp] theorem implicitJacobian_of_isUnregularized {step : α} (h : isUnregularized step = true)
    (J : Field α) (marking : Marking) : implicitJacobian J step marking = J := by
  simp [implicitJacobian, h]

end Equilibrium
