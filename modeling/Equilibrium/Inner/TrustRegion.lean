import Equilibrium.Inner.Descent

/-!
The trust region method.

A step solves the linearised equations as long as the solution lies within a region around the
point, and else goes to the border of the region between that solution and the direction of
steepest descent. The region grows and shrinks with how well the linear equations foretell the next
value. The Jacobian is taken once and then corrected by what each step has shown, until two steps
in a row disappoint; only then is it taken anew. The components are weighted by the lengths of the
Jacobian's columns.
-/

namespace Equilibrium

variable {α : Type} [Scalar α]

@[specialize] def blend (a : α) (xs : List α) (b : α) (ys : List α) : List α :=
  xs.zipWith (fun x y => a * x + b * y) ys

/-- The part of the solution in a step that lies between the point of steepest descent, at the
distance `reach` inside the region, and the solution, at the distance `size` outside of it. -/
def doglegPart (length steepness size reach radius : α) : α :=
  let inner := reach / radius
  let outer := radius / size
  let first := length / steepness * (length / size) * inner
  let room := 1 - inner * inner
  let shift := first - outer
  let divisor := first - outer * (inner * inner) +
    Scalar.sqrt (shift * shift + (1 - outer * outer) * room)
  outer * room / divisor

/-- The step from a point within a region, turned around: what is taken off the components. -/
@[specialize] def doglegStep (rows : List (List α)) (value : List α) (length : α)
    (weights : List α) (radius : α) : List α :=
  let newton := solveSquare rows value
  let size := euclidean (weighted weights newton)
  if size ≤ radius then newton
  else
    let slope := (transposedTimes value.length rows value).zipWith (· / ·) weights
    let steepness := euclidean slope
    if steepness == 0 then newton.map (radius / size * ·)
    else
      let descent := (slope.map (· / steepness)).zipWith (· / ·) weights
      let spread := euclidean (timesVector rows descent)
      let reach := steepness / spread / spread
      if reach < radius then
        let part := doglegPart length steepness size reach radius
        blend ((1 - part) * reach) descent part newton
      else descent.map (radius * ·)

structure Region (α : Type) where
  point : SearchPoint α
  rows : List (List α)
  fresh : Bool
  weights : List α
  extent : α
  radius : α
  untried : Bool
  gains : Nat
  losses : Nat
  /-- The steps in a row that hardly reduced the length. -/
  slowSteps : Nat
  /-- The Jacobians in a row that did not reduce it by much. -/
  slowJacobians : Nat
  evaluations : Nat

inductive Verdict where
  | again
  | renew
  | stop (success : Bool)
  deriving DecidableEq, Repr

namespace Region

def opened (r : Region α) : Region α :=
  let weights := columnWeights (columnsOf r.point.x.length r.rows)
  let extent := euclidean (weighted weights r.point.x)
  { r with weights := weights, extent := extent, radius := firstRadius extent }

def start (jacobian : SearchJacobian α) (point : SearchPoint α) : Except (Fault α) (Region α) := do
  let rows ← jacobian.rows point.x point.value
  return opened {
    point := point, rows := rows, fresh := true, weights := [], extent := 0, radius := 0
    untried := true, gains := 0, losses := 0, slowSteps := 0, slowJacobians := 0
    evaluations := 1 + jacobian.evaluations }

/-- Take the Jacobian anew. As long as no step was taken, the region is opened anew as well. -/
def renew (jacobian : SearchJacobian α) (r : Region α) : Except (Fault α) (Region α) := do
  let rows ← jacobian.rows r.point.x r.point.value
  let r : Region α :=
    { r with rows := rows, fresh := true, evaluations := r.evaluations + jacobian.evaluations }
  let lengths := (columnsOf r.point.x.length rows).map euclidean
  return if r.untried then r.opened
    else { r with weights := r.weights.zipWith Scalar.larger lengths }

/-- Resize a region after a step of some size, by how well the gain was foretold. -/
def resize (r : Region α) (ratio size : α) : Region α :=
  if 0.1 ≤ ratio then
    let wider :=
      if 0.5 ≤ ratio || 1 ≤ r.gains then Scalar.larger r.radius (size / 0.5) else r.radius
    let radius := if Scalar.abs (ratio - 1) ≤ 0.1 then size / 0.5 else wider
    { r with radius := radius, gains := r.gains + 1, losses := 0 }
  else { r with radius := 0.5 * r.radius, gains := 0, losses := r.losses + 1 }

def verdict (r : Region α) (size relative : α) (limit : Nat) : Verdict :=
  if r.radius ≤ relative * r.extent || r.point.length == 0 then .stop true
  else if limit ≤ r.evaluations || r.slowJacobians = 5 || r.slowSteps = 10 ||
      0.1 * Scalar.larger (0.1 * r.radius) size ≤ Scalar.epsilon * r.extent then .stop false
  else if r.losses = 2 then .renew
  else .again

/-- The Jacobian corrected by a step: what the step has shown beyond what was foretold, spread over
the columns by their weighted parts in the step. -/
@[specialize] def corrected (r : Region α) (step foretold seen : List α) (size : α) :
    List (List α) :=
  let parts := weighted r.weights ((weighted r.weights step).map (· / size))
  let misses := seen.zipWith (fun a b => (a - b) / size) foretold
  r.rows.zipWith (fun row miss => row.zipWith (fun a part => a + miss * part) parts) misses

@[specialize] def advance (F : ListField α) (relative : α) (limit : Nat) (r : Region α) :
    Except (Fault α) (Region α × Verdict) := do
  let step := (doglegStep r.rows r.point.value r.point.length r.weights r.radius).map fun a => -a
  let size := euclidean (weighted r.weights step)
  let r := if r.untried then { r with radius := Scalar.capped size r.radius } else r
  let next ← SearchPoint.at F (r.point.x.zipWith (· + ·) step)
  let foretold := (timesVector r.rows step).zipWith (· + ·) r.point.value
  let gain := reduction r.point.length next.length (-1)
  let hope := reduction r.point.length (euclidean foretold) 0
  let ratio := if 0 < hope then gain / hope else 0
  let rows := r.corrected step foretold next.value size
  let r : Region α := { r.resize ratio size with
    evaluations := r.evaluations + 1
    slowSteps := if 0.001 ≤ gain then 0 else r.slowSteps + 1
    slowJacobians :=
      if 0.1 ≤ gain then 0 else if r.fresh then r.slowJacobians + 1 else r.slowJacobians }
  let r := if 0.0001 ≤ ratio then
      { r with
        point := next, untried := false, extent := euclidean (weighted r.weights next.x) }
    else r
  match r.verdict size relative limit with
  | .again => return ({ r with rows := rows, fresh := false }, .again)
  | verdict => return (r, verdict)

/-- Take steps, at most so many: where they lead, and whether to a root. -/
@[specialize] def search (F : ListField α) (jacobian : SearchJacobian α) (relative : α)
    (limit : Nat) : (steps : Nat) → Region α → Except (Fault α) (Region α × Bool)
  | 0, r => return (r, false)
  | steps + 1, r => do
    let (r, verdict) ← r.advance F relative limit
    match verdict with
    | .stop success => return (r, success)
    | .renew => search F jacobian relative limit steps (← r.renew jacobian)
    | .again => search F jacobian relative limit steps r

end Region

end Equilibrium
