import Equilibrium.Scalar

/-!
Arrays of any rank.

States, residuals and Jacobians meet at one interface: a shape and that many entries in row-major
order. A state is a vector, a Jacobian a square matrix, and a function supplied from outside may
answer with anything else; the shape is what a caller checks first. That the entries fill the shape
is part of the type, so no reader of a tensor meets a missing entry.
-/

namespace Equilibrium

-- The unit of a product of extents is the numeral, whatever else is known about numbers.
attribute [local instance (2000)] One.ofOfNat1

/-- An array of the given shape, its entries in row-major order. -/
structure Tensor (α : Type) where
  shape : List Nat
  entries : List α
  length_entries : entries.length = shape.prod

namespace Tensor

variable {α β : Type}

theorem ext_iff_entries {a b : Tensor α} : a = b ↔ a.shape = b.shape ∧ a.entries = b.entries := by
  cases a; cases b; simp

def vector (xs : List α) : Tensor α := ⟨[xs.length], xs, by simp⟩

@[simp] theorem shape_vector (xs : List α) : (vector xs).shape = [xs.length] := rfl

@[simp] theorem entries_vector (xs : List α) : (vector xs).entries = xs := rfl

def scalar (x : α) : Tensor α := ⟨[], [x], by simp⟩

@[simp] theorem shape_scalar (x : α) : (scalar x).shape = [] := rfl

@[simp] theorem entries_scalar (x : α) : (scalar x).entries = [x] := rfl

def size (t : Tensor α) : Nat := t.entries.length

/-- The extent along the first axis, one for a single number. -/
def leading (t : Tensor α) : Nat := t.shape.headD 1

@[simp] theorem leading_vector (xs : List α) : (vector xs).leading = xs.length := rfl

/-- The same entries in another shape, if they fill it. -/
def reshape? (t : Tensor α) (shape : List Nat) : Option (Tensor α) :=
  if h : t.entries.length = shape.prod then some ⟨shape, t.entries, h⟩ else none

/-- A single number read as a vector of length one; any other array is left alone. -/
def atLeastVector (t : Tensor α) : Tensor α :=
  match t.shape with
  | [] => vector t.entries
  | _ :: _ => t

@[simp] theorem atLeastVector_vector (xs : List α) :
    (vector xs).atLeastVector = vector xs := rfl

theorem atLeastVector_of_length_le {t : Tensor α} (h : t.shape.length ≤ 1) :
    t.atLeastVector = vector t.entries := by
  unfold atLeastVector
  split
  · rfl
  · next n s hshape =>
    obtain rfl : s = [] := by simpa [hshape] using h
    refine ext_iff_entries.2 ⟨?_, rfl⟩
    rw [hshape, shape_vector, t.length_entries, hshape]
    simp

theorem atLeastVector_of_lt_length {t : Tensor α} (h : 1 < t.shape.length) :
    t.atLeastVector = t := by
  unfold atLeastVector
  split
  · next hshape => simp [hshape] at h
  · rfl

@[simp] theorem entries_atLeastVector (t : Tensor α) : t.atLeastVector.entries = t.entries := by
  unfold atLeastVector
  split <;> rfl

def mapIdx (f : Nat → α → β) (t : Tensor α) : Tensor β :=
  ⟨t.shape, t.entries.mapIdx f, by simp [t.length_entries]⟩

@[simp] theorem shape_mapIdx (f : Nat → α → β) (t : Tensor α) : (t.mapIdx f).shape = t.shape := rfl

@[simp] theorem entries_mapIdx (f : Nat → α → β) (t : Tensor α) :
    (t.mapIdx f).entries = t.entries.mapIdx f := rfl

def map (f : α → β) (t : Tensor α) : Tensor β :=
  ⟨t.shape, t.entries.map f, by simp [t.length_entries]⟩

@[simp] theorem shape_map (f : α → β) (t : Tensor α) : (t.map f).shape = t.shape := rfl

@[simp] theorem entries_map (f : α → β) (t : Tensor α) : (t.map f).entries = t.entries.map f := rfl

theorem length_flatten_of_shape (s : List Nat) :
    (items : List (Tensor α)) → (∀ t ∈ items, t.shape = s) →
      (items.flatMap (·.entries)).length = items.length * s.prod
  | [], _ => by simp
  | t :: rest, h => by
    have ht := h t (by simp)
    have hrest := length_flatten_of_shape s rest (fun u hu => h u (by simp [hu]))
    rw [List.flatMap_cons, List.length_append, hrest, t.length_entries, ht, List.length_cons,
      Nat.succ_mul, Nat.add_comm]

/-- Arrays of one shape, laid along a new first axis; nothing if their shapes differ. -/
def stack? (items : List (Tensor α)) : Option (Tensor α) :=
  let s := match items with
    | [] => []
    | t :: _ => t.shape
  if h : ∀ t ∈ items, t.shape = s then
    some ⟨items.length :: s, items.flatMap (·.entries), by
      simp [length_flatten_of_shape s items h]⟩
  else none

theorem length_take_drop_of_prod {n m i : Nat} {xs : List α} (h : xs.length = n * m) (hi : i < n) :
    ((xs.drop (i * m)).take m).length = m := by
  have : i * m + m ≤ n * m := by
    rw [← Nat.succ_mul]
    exact Nat.mul_le_mul_right m hi
  rw [List.length_take, List.length_drop, h]
  omega

/-- The slices along the first axis; a single number has none. -/
def rows (t : Tensor α) : List (Tensor α) :=
  match h : t.shape with
  | [] => []
  | n :: s => (List.range n).attach.map fun ⟨i, hi⟩ =>
      ⟨s, (t.entries.drop (i * s.prod)).take s.prod, by
        exact length_take_drop_of_prod (by simp [t.length_entries, h]) (List.mem_range.1 hi)⟩

end Tensor

end Equilibrium
