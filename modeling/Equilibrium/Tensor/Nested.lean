import Equilibrium.Fault

/-!
Nested lists.

Arrays are written down as lists in lists. Such lists are an array if all lists at one depth are
alike and the depth is not above the number of axes that an array can have; any others are ragged.
-/

namespace Equilibrium

inductive Nested (β : Type) where
  | entry (b : β)
  | list (items : List (Nested β))

namespace Nested

variable {α β : Type}

def maxAxes : Nat := 64

mutual

/-- The array of nested lists of any depth, if all lists at one depth are alike. -/
def stacked? : Nested β → Option (Tensor β)
  | entry b => some (.scalar b)
  | list items => (stackedAll? items).bind Tensor.stack?

def stackedAll? : List (Nested β) → Option (List (Tensor β))
  | [] => some []
  | item :: rest => do return (← item.stacked?) :: (← stackedAll? rest)

end

def toTensor (nested : Nested β) : Except (Fault α) (Tensor β) :=
  match nested.stacked?.filter fun t => t.shape.length ≤ maxAxes with
  | some t => .ok t
  | none => .error .ragged

end Nested

end Equilibrium
