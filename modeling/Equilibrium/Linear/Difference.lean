import Equilibrium.Fault

/-!
Derivatives by differences.

Each component of a point in turn is moved a little, and the change of the value makes one column of
the Jacobian. How far a component is moved is up to the caller.
-/

namespace Equilibrium

variable {α : Type} [Scalar α]

/-- A function of some components, which may fail. -/
abbrev ListField (α : Type) := List α → Except (Fault α) (List α)

/-- The relative size of a move: half of the digits of a number. -/
def differenceStep : α := 1.4901161193847656e-8

@[specialize] def differenceColumn (F : ListField α) (x value : List α) (j : Nat) (move : α) :
    Except (Fault α) (Array α) := do
  let here := x.getD j 0
  let there := here + move
  let moved ← F (x.set j there)
  return (moved.zipWith (fun a b => (a - b) / (there - here)) value).toArray

/-- The rows of the Jacobian by differences, from the point, the value there and a move for each
component. -/
@[specialize] def differenceRows (F : ListField α) (x value moves : List α) :
    Except (Fault α) (List (List α)) := do
  let columns ← moves.zipIdx.mapM fun (move, j) => differenceColumn F x value j move
  return (List.range value.length).map fun i => columns.map fun column => column.getD i 0

def rowsOf (n : Nat) : (count : Nat) → List α → List (List α)
  | 0, _ => []
  | count + 1, xs => xs.take n :: rowsOf n count (xs.drop n)

end Equilibrium
