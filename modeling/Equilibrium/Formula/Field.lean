import Equilibrium.Formula

/-!
Functions written as formulas.

A function of a state is given by its entries: a list of formulas, one formula for all components,
or the bands of a matrix. The entries are computed in row-major order, so the first that fails
decides how the function fails. The value may be asked for in another shape.
-/

namespace Equilibrium

inductive Entries (α : Type) where
  | listed (items : List (Formula α))
  | each (item : Formula α)
  | diagonal (main : Formula α)
  | tridiagonal (lower main upper : Formula α)

structure WrittenField (α : Type) where
  entries : Entries α
  /-- The shape that the value is brought to, if one is asked for. One extent may be negative, which
  leaves it open. -/
  shape : Option (List Int)

namespace Entries

variable {α : Type} [Elementary α]

def band (y : Formula.Argument α) (lower main upper : Formula α) (i j : Nat) : Except (Fault α) α :=
  if i = j then main.eval y i
  else if i = j + 1 then lower.eval y i
  else if j = i + 1 then upper.eval y i
  else .ok 0

def square (n : Nat) (cell : Nat → Nat → Except (Fault α) α) : Except (Fault α) (List α) := do
  let rows ← (List.range n).mapM fun i => (List.range n).mapM (cell i)
  return rows.flatten

/-- The value of the entries at a state, in the shape they have of their own. All but a list of
formulas go by the length of the state. -/
def eval (y : Formula.Argument α) : Entries α → Except (Fault α) (List Nat × List α)
  | listed items => do
    let values ← items.zipIdx.mapM fun (item, i) => item.eval y i
    return ([items.length], values)
  | each item => do
    let n ← y.length
    let values ← (List.range n).mapM fun i => item.eval y i
    return ([n], values)
  | diagonal main => do
    let n ← y.length
    let values ← square n (band y (.const 0) main (.const 0))
    return ([n, n], values)
  | tridiagonal lower main upper => do
    let n ← y.length
    let values ← square n (band y lower main upper)
    return ([n, n], values)

end Entries

-- The unit of a product of extents is the numeral, whatever else is known about numbers.
attribute [local instance (2000)] One.ofOfNat1

/-- The shape that some extents ask for of so many entries. An extent that is left open is as large
as the entries allow; only one can be left open, and not beside an extent of zero. -/
def filledShape? (size : Nat) (extents : List Int) : Option (List Nat) :=
  let known := ((extents.filter (0 ≤ ·)).map Int.toNat).prod
  let isOpen := fun (extent : Int) => decide (extent < 0)
  if extents.any isOpen && (known == 0 || extents.countP isOpen != 1) then none
  else some (extents.map fun extent => if extent < 0 then size / known else extent.toNat)

/-- The value made of some entries, in a shape of their own or in the one that is asked for. -/
def WrittenField.fill {α : Type} (w : WrittenField α) (own : List Nat) (values : List α) :
    Option (Tensor α) := do
  let shape ← match w.shape with
    | some extents => filledShape? values.length extents
    | none => some own
  (Tensor.vector values).reshape? shape

def WrittenField.toField {α : Type} [Elementary α] (w : WrittenField α) : Field α := fun y => do
  let (shape, values) ← w.entries.eval ⟨y.shape, y.entries.toArray⟩
  match w.fill shape values with
  | some value => return value
  | none => throw (.unfillable values.length ((w.shape.getD []).map Int.toNat))

end Equilibrium
