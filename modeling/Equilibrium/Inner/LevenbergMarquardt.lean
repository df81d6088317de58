import Equilibrium.Inner.Descent

/-!
The method of damped least squares.

A step makes the linearised equations as nearly true as is possible within a region around the
point: the equations are solved together with a multiple of the weighted step itself, and the
multiple, the damping, is chosen so that the step ends near the border of the region, or is zero if
the step stays inside without it. The Jacobian is taken anew after every step that reduces the
length. There may be more equations than unknowns, and then the search ends where the length is
smallest.
-/

namespace Equilibrium

variable {α : Type} [Scalar α]

structure DampedSystem (α : Type) where
  columns : List (List α)
  value : List α
  weights : List α
  radius : α

/-- A step, turned around, with its damping. -/
structure DampedStep (α : Type) where
  damping : α
  step : List α

namespace DampedSystem

def least : α := 2.2250738585072014e-308

/-- The triangular form of the equations together with a multiple of the step. -/
@[specialize] def damped (s : DampedSystem α) (damping : α) : Triangle α :=
  let root := Scalar.sqrt damping
  let columns := s.columns.zipIdx.map fun (column, j) =>
    column ++ s.weights.mapIdx fun i w => if i = j then root * w else 0
  triangulate columns (s.value ++ s.weights.map fun _ => 0)

/-- How much a change of the damping changes the size of a step. -/
@[specialize] def sensitivity (s : DampedSystem α) (triangle : Triangle α) (step : List α)
    (size : α) : α :=
  let scaled := weighted s.weights ((weighted s.weights step).map (· / size))
  euclidean (triangle.solveTransposed scaled)

/-- Narrow the damping down between two bounds, at most so many times. -/
@[specialize] def narrow (s : DampedSystem α) : (times : Nat) →
    (low high damping excess : α) → List α → DampedStep α
  | 0, _, _, damping, _, step => ⟨damping, step⟩
  | times + 1, low, high, damping, before, _ =>
    let damping := if damping == 0 then Scalar.larger least (0.001 * high) else damping
    let triangle := s.damped damping
    let step := triangle.solve
    let size := euclidean (weighted s.weights step)
    let excess := size - s.radius
    if Scalar.abs excess ≤ 0.1 * s.radius ||
        (low == 0 && decide (excess ≤ before) && decide (before < 0)) || times = 0 then
      ⟨damping, step⟩
    else
      let change := sensitivity s triangle step size
      let correction := excess / s.radius / change / change
      let low := if 0 < excess then Scalar.larger low damping else low
      let high := if excess < 0 then Scalar.capped damping high else high
      narrow s times low high (Scalar.larger low (damping + correction)) excess step

def narrowings : Nat := 10

@[specialize] def step (s : DampedSystem α) (damping : α) : DampedStep α :=
  let triangle := triangulate s.columns s.value
  let newton := triangle.solve
  let size := euclidean (weighted s.weights newton)
  let excess := size - s.radius
  if excess ≤ 0.1 * s.radius then ⟨0, newton⟩
  else
    let change := sensitivity s triangle newton size
    let low := if triangle.isRegular then excess / s.radius / change / change else 0
    let slope := (s.columns.map fun column => dot column s.value).zipWith (· / ·) s.weights
    let steepness := euclidean slope
    let high := steepness / s.radius
    let high := if high == 0 then least / Scalar.capped 0.1 s.radius else high
    let damping := Scalar.capped high (Scalar.larger damping low)
    let damping := if damping == 0 then steepness / size else damping
    s.narrow narrowings low high damping excess newton

end DampedSystem

structure Damped (α : Type) where
  point : SearchPoint α
  columns : List (List α)
  weights : List α
  extent : α
  radius : α
  damping : α
  /-- Whether no step has reduced the length. -/
  untried : Bool
  evaluations : Nat

inductive DampedVerdict where
  | again
  | renew
  | stop (success : Bool)
  deriving DecidableEq, Repr

namespace Damped

@[specialize] def cosine (d : Damped α) : α :=
  let unit := d.point.value.map (· / d.point.length)
  let cosines := d.columns.map fun column =>
    let length := euclidean column
    if length == 0 then 0 else Scalar.abs (dot column unit / length)
  if d.point.length == 0 then 0 else cosines.foldl Scalar.larger 0

def start (jacobian : SearchJacobian α) (point : SearchPoint α) : Except (Fault α) (Damped α) := do
  let rows ← jacobian.rows point.x point.value
  let columns := columnsOf point.x.length rows
  let weights := columnWeights columns
  let extent := euclidean (weighted weights point.x)
  return {
    point := point, columns := columns, weights := weights, extent := extent
    radius := firstRadius extent, damping := 0, untried := true
    evaluations := 1 + jacobian.evaluations }

def renew (jacobian : SearchJacobian α) (d : Damped α) : Except (Fault α) (Damped α) := do
  let rows ← jacobian.rows d.point.x d.point.value
  let columns := columnsOf d.point.x.length rows
  return { d with
    columns := columns
    weights := d.weights.zipWith Scalar.larger (columns.map euclidean)
    evaluations := d.evaluations + jacobian.evaluations }

/-- Resize the region and adapt the damping after a step of some size. The reduction of the squared
length is `gain`, it was foretold to be `gain / ratio`, and falls off at first with `slope`; the
length itself may have grown to many times of what it was. -/
def resize (d : Damped α) (size gain ratio slope : α) (grown : Bool) : Damped α :=
  if ratio ≤ 0.25 then
    let factor := if 0 ≤ gain then 0.5 else 0.5 * slope / (slope + 0.5 * gain)
    let factor := if grown || decide (factor < 0.1) then 0.1 else factor
    { d with
      radius := factor * Scalar.capped (size / 0.1) d.radius
      damping := d.damping / factor }
  else if d.damping == 0 || decide (0.75 ≤ ratio) then
    { d with radius := size / 0.5, damping := 0.5 * d.damping }
  else d

/-- Whether reductions of the squared length, the real one and the foretold one, are within a
bound. -/
def isSmall (bound gain hope ratio : α) : Bool :=
  Scalar.abs gain ≤ bound && hope ≤ bound && 0.5 * ratio ≤ 1

/-- How a search goes on after a step that reduced the squared length by `gain` instead of `hope`;
the length may have been flat before the step already. -/
def verdict (d : Damped α) (gain hope ratio relative : α) (limit : Nat) (flat : Bool) :
    DampedVerdict :=
  if isSmall relative gain hope ratio || d.radius ≤ relative * d.extent then .stop true
  else if limit ≤ d.evaluations || isSmall Scalar.epsilon gain hope ratio ||
      d.radius ≤ Scalar.epsilon * d.extent || flat then .stop false
  else if ratio < 0.0001 then .again
  else .renew

@[specialize] def advance (F : ListField α) (relative : α) (limit : Nat) (d : Damped α) :
    Except (Fault α) (Damped α × DampedVerdict) := do
  let system : DampedSystem α := ⟨d.columns, d.point.value, d.weights, d.radius⟩
  let found := system.step d.damping
  let step := found.step.map fun a => -a
  let size := euclidean (weighted d.weights step)
  let d := { d with
    damping := found.damping
    radius := if d.untried then Scalar.capped size d.radius else d.radius }
  let next ← SearchPoint.at F (d.point.x.zipWith (· + ·) step)
  let length := d.point.length
  let part := next.length / length
  let gain := if 0.1 * next.length < length then 1 - part * part else -1
  let grown : Bool := length ≤ 0.1 * next.length
  let nothing := d.point.value.map fun _ => 0
  let linear := (found.step.zip d.columns).foldl
    (fun acc (a, column) => acc.zipWith (fun b c => b + a * c) column) nothing
  let along := euclidean linear / length
  let across := Scalar.sqrt d.damping * size / length
  let hope := along * along + across * across / 0.5
  let ratio := if hope == 0 then 0 else gain / hope
  let d := { d.resize size gain ratio (-(along * along + across * across)) grown with
    evaluations := d.evaluations + 1 }
  let moved := if 0.0001 ≤ ratio then
      { d with
        point := next, untried := false, extent := euclidean (weighted d.weights next.x) }
    else d
  return (moved, moved.verdict gain hope ratio relative limit (d.cosine ≤ Scalar.epsilon))

/-- Take steps, at most so many: where they lead, and whether to a smallest length. -/
@[specialize] def search (F : ListField α) (jacobian : SearchJacobian α) (relative : α)
    (limit : Nat) : (steps : Nat) → Damped α → Except (Fault α) (Damped α × Bool)
  | 0, d => return (d, false)
  | steps + 1, d => do
    if d.cosine ≤ 0 then return (d, true)
    else
      let (d, verdict) ← d.advance F relative limit
      match verdict with
      | .stop success => return (d, success)
      | .renew => search F jacobian relative limit steps (← d.renew jacobian)
      | .again => search F jacobian relative limit steps d

end Damped

end Equilibrium
