import Equilibrium.Inner.LineSearch

/-!
Directions from products with the derivative.

The derivative is never written down: its product with a vector is a difference of two values of
the function along that vector. From one product after another comes an orthonormal basis of
directions, and among their sums the direction is chosen whose product is closest to the residual.
The basis grows until that is close enough.
-/

namespace Equilibrium

variable {α : Type} [Scalar α]

def productReach (here : SearchPoint α) : α :=
  differenceStep * Scalar.larger 1 (largestOrUndefined here.x) /
    Scalar.larger 1 (largestOrUndefined here.value)

@[specialize] def slopeAlong (F : ListField α) (here : SearchPoint α) (v : List α) :
    Except (Fault α) (List α) := do
  let size := euclidean v
  if size == 0 then return v.map fun _ => 0
  else
    let scale := productReach here / size
    let there ← F (here.x.zipWith (fun a b => a + scale * b) v)
    let slope := there.zipWith (fun a b => (a - b) / scale) here.value
    if slope.all Scalar.isFinite then return slope else throw .notFiniteSlope

/-- Take off a vector its parts along the vectors of an orthonormal basis: the parts and what is
left. -/
@[specialize] def deflated : (basis : List (List α)) → List α → List α × List α
  | [], w => ([], w)
  | v :: basis, w =>
    let part := dot v w
    let (parts, left) := deflated basis (lessMultiple part w v)
    (part :: parts, left)

/-- An orthonormal basis, and the products of all its vectors but the last, each by its parts along
the basis. -/
structure KrylovBasis (α : Type) where
  vectors : List (List α)
  /-- The parts of the products, each list as long as the basis was then. -/
  products : List (List α)

namespace KrylovBasis

def columns (basis : KrylovBasis α) : List (List α) :=
  let rows := basis.products.length + 1
  basis.products.map fun column => column ++ List.replicate (rows - column.length) 0

def target (basis : KrylovBasis α) (length : α) : List α :=
  length :: List.replicate basis.products.length 0

/-- The parts of the solution along the basis, for a right-hand side of the given length along its
first vector. -/
@[specialize] def parts (basis : KrylovBasis α) (length : α) : List α :=
  (triangulate basis.columns (basis.target length)).solve

@[specialize] def excess (basis : KrylovBasis α) (length : α) (parts : List α) : α :=
  let left := (parts.zip basis.columns).foldl
    (fun acc (part, column) => lessMultiple part acc column) (basis.target length)
  euclidean left

@[specialize] def combination (basis : KrylovBasis α) (parts : List α) (n : Nat) : List α :=
  (parts.zip basis.vectors).foldl (fun acc (part, v) => lessMultiple (-part) acc v)
    (List.replicate n 0)

/-- Let a basis grow, at most so many times, until its solution leaves no more than the bound. The
answer is the parts of the solution and the basis. -/
@[specialize] def grow (F : ListField α) (here : SearchPoint α) (bound : α) :
    (vectors : Nat) → KrylovBasis α → Except (Fault α) (List α × KrylovBasis α)
  | 0, basis => return (basis.parts here.length, basis)
  | vectors + 1, basis => do
    let product ← slopeAlong F here (basis.vectors.getLastD [])
    let (found, left) := deflated basis.vectors product
    let size := euclidean left
    let basis : KrylovBasis α :=
      ⟨basis.vectors ++ [left.map (· / size)], basis.products ++ [found ++ [size]]⟩
    let parts := basis.parts here.length
    if !(Scalar.epsilon * euclidean product < size) || basis.excess here.length parts ≤ bound then
      return (parts, basis)
    else grow F here bound vectors basis

end KrylovBasis

def krylovVectors : Nat := 30

/-- What the derivative at a point takes to the residual there, but for a relative error. Where a
product meets a singular system nothing is known. -/
@[specialize] def krylovSolve (F : ListField α) (here : SearchPoint α) (tol : α) :
    Except (Fault α) (List α) :=
  let first : KrylovBasis α := ⟨[here.value.map (· / here.length)], []⟩
  let nothing := here.value.map fun _ => 0
  match KrylovBasis.grow F here (tol * here.length) krylovVectors first with
  | .ok (parts, basis) =>
    if parts.all Scalar.isFinite then return basis.combination parts here.value.length
    else return nothing
  | .error (.signalled .singular _) => return nothing
  | .error fault => throw fault

def krylovDirections (F : ListField α) : Directions Unit α where
  solve _ here tol := do return (← krylovSolve F here tol, ())
  learn _ _ _ := return ()

end Equilibrium
