import Equilibrium.Fault

/-!
Arrays of unlike shapes side by side.

Two arrays can be taken entry by entry when their extents agree from the last axis on. An axis of
extent one is repeated as often as the other array asks for, and an axis that only one of the two
has counts as one of extent one in the other. A value that is wanted as a vector is spread in the
same way, after the axes of extent one in front of it are dropped.
-/

namespace Equilibrium

def commonExtent? (n m : Nat) : Option Nat :=
  if n = m ∨ m = 1 then some n else if n = 1 then some m else none

/-- The extents that two lists of axes have together, both counted from the last axis. -/
def commonExtents? : List Nat → List Nat → Option (List Nat)
  | [], s => some s
  | s, [] => some s
  | n :: s, m :: t => do return (← commonExtent? n m) :: (← commonExtents? s t)

/-- The shape that two shapes have together. -/
def commonShape? (s t : List Nat) : Option (List Nat) :=
  (commonExtents? s.reverse t.reverse).map List.reverse

theorem commonExtent?_self (n : Nat) : commonExtent? n n = some n := by simp [commonExtent?]

theorem commonExtents?_self (s : List Nat) : commonExtents? s s = some s := by
  induction s with
  | nil => rfl
  | cons n s ih => simp [commonExtents?, commonExtent?_self, ih]

@[simp] theorem commonShape?_self (s : List Nat) : commonShape? s s = some s := by
  simp [commonShape?, commonExtents?_self]

variable {α β : Type}

-- The unit of a product of extents is the numeral, whatever else is known about numbers.
attribute [local instance (2000)] One.ofOfNat1

/-- The entries of an array with the given extents, repeated along the axes of extent one to fill
others. -/
def repeated : (own wanted : List Nat) → List β → List β
  | n :: s, m :: t, xs =>
    let part := fun i => repeated s t ((xs.drop (i * s.prod)).take s.prod)
    let once := (List.range n).flatMap part
    if n = m then once else (List.replicate m once).flatten
  | _, _, xs => xs

namespace Tensor

/-- The entries of an array as they fill a shape that it has together with its own. -/
def spread (t : Tensor β) (shape : List Nat) : List β :=
  repeated (List.replicate (shape.length - t.shape.length) 1 ++ t.shape) shape t.entries

def zipSpread (f : β → β → β) (x y : Tensor β) : Except (Fault α) (Tensor β) :=
  let shape? := commonShape? x.shape y.shape
  let made := shape?.bind fun s => (vector ((x.spread s).zipWith f (y.spread s))).reshape? s
  match made with
  | some t => .ok t
  | none => .error (.unlikeShapes x.shape y.shape)

def plus [Add β] (x y : Tensor β) : Except (Fault α) (Tensor β) := zipSpread (· + ·) x y

def asVector (t : Tensor β) (n : Nat) : Except (Fault α) (List β) :=
  let shape := t.shape.dropWhile (· = 1)
  match shape, t.entries with
  | [], [x] => .ok (List.replicate n x)
  | _, xs => if shape = [n] then .ok xs else .error (.unlikeShapes t.shape [n])

end Tensor

end Equilibrium
