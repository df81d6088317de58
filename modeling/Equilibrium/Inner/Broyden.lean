import Equilibrium.Inner.LineSearch

/-!
Directions by Broyden's first method.

The inverse of the derivative is modelled by a multiple of the identity and one product of two
vectors for each step, which makes the model foretell that step exactly. A model that proposes a
direction which is not finite is forgotten.
-/

namespace Equilibrium

variable {α : Type} [Scalar α]

/-- A model of the inverse of a derivative. -/
structure InverseModel (α : Type) where
  scale : α
  /-- The products: each takes its second vector with an argument, as a multiple of the first. -/
  terms : List (List α × List α)

namespace InverseModel

/-- The model before the first step: a residual is worth half of the length of the point, or of
one. -/
def start (point : SearchPoint α) : Except (Fault α) (InverseModel α) := do
  if point.length == 0 then return ⟨1, []⟩
  else
    checkFinite point.x
    return ⟨0.5 * Scalar.larger (euclidean point.x) 1 / point.length, []⟩

def base (model : InverseModel α) (v : List α) : List α := v.map fun a => -(model.scale * a)

@[specialize] def times (model : InverseModel α) (v : List α) : List α :=
  model.terms.foldl (fun acc (c, d) => lessMultiple (-(dot d v)) acc c) (model.base v)

@[specialize] def transposedTimes (model : InverseModel α) (v : List α) : List α :=
  model.terms.foldl (fun acc (c, d) => lessMultiple (-(dot c v)) acc d) (model.base v)

/-- What the model proposes, and the model itself or what is left when it is forgotten. -/
@[specialize] def solve (model : InverseModel α) (here : SearchPoint α) :
    List α × InverseModel α :=
  let solution := model.times here.value
  if solution.all Scalar.isFinite then (solution, model)
  else (model.base here.value, { model with terms := [] })

@[specialize] def learn (model : InverseModel α) (before after : SearchPoint α) :
    Except (Fault α) (InverseModel α) := do
  let moved := after.x.zipWith (· - ·) before.x
  let changed := after.value.zipWith (· - ·) before.value
  checkFinite moved
  checkFinite changed
  let v := model.transposedTimes moved
  let missed := moved.zipWith (· - ·) (model.times changed)
  let size := dot changed v
  return { model with terms := model.terms ++ [(missed, v.map (· / size))] }

end InverseModel

def broydenDirections : Directions (InverseModel α) α where
  solve model here _ := return model.solve here
  learn model before after := model.learn before after

end Equilibrium
