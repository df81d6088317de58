import Equilibrium.Linear.Difference
import Equilibrium.Linear.Elimination

/-!
One step of an integration.

A step is covered by one, two, three and more small linearly implicit Euler steps, and the results
are extrapolated to infinitely many. The linearly implicit Euler method stays calm on stiff
equations, and its error has a power series in the length of the small steps, which is what
extrapolation needs; any approximation of the Jacobian will do for both. The difference of the last
two extrapolations tells how far off the step is.

What is extrapolated is the displacement from the start of the step, so that next to a steady state
nothing is lost to rounding.
-/

namespace Equilibrium

variable {α : Type} [Scalar α]

def extrapolationOrder : Nat := 8

/-- The matrix of a small step of length `h`: the identity less `h` times the Jacobian. -/
@[specialize] def stepRows (h : α) (rows : List (List α)) : List (List α) :=
  rows.mapIdx fun i row => row.mapIdx fun j a => if i = j then 1 - h * a else -(h * a)

/-- The displacement after so many small steps of length `h`, the first of which starts at a
displacement with the given slope. -/
@[specialize] def smallSteps (F : ListField α) (e : Elimination α) (h : α) (y : List α) :
    (count : Nat) → (displacement slope : List α) → Except (Fault α) (List α)
  | 0, displacement, _ => return displacement
  | 1, displacement, slope =>
    return displacement.zipWith (· + ·) (e.solve (slope.map (h * ·)))
  | count + 1, displacement, slope => do
    let displacement := displacement.zipWith (· + ·) (e.solve (slope.map (h * ·)))
    let slope ← F (y.zipWith (· + ·) displacement)
    smallSteps F e h y count displacement slope

/-- Extrapolate the result of `j` small steps: from the row of extrapolations that ends with `j - 1`
small steps, the row that ends with `j`, its entries after the first `k`. -/
@[specialize] def extrapolated (j : Nat) : (k : Nat) → (before : List (List α)) → List α →
    List (List α)
  | _, [], current => [current]
  | k, old :: before, current =>
    let factor := Scalar.ofNat (j - k) / Scalar.ofNat k
    let next := current.zipWith (fun c o => c + (c - o) * factor) old
    current :: extrapolated j (k + 1) before next

structure Local (α : Type) where
  y : List α
  slope : List α
  rows : List (List α)

/-- Go through the small steps from `j` on, `count` more times, with the last row of extrapolations.
The answer is the last row, or nothing where the equations cannot be solved. -/
@[specialize] def extrapolationRows (F : ListField α) (here : Local α) (length : α) (j : Nat) :
    (count : Nat) → List (List α) → Except (Fault α) (Option (List (List α)))
  | 0, last => return some last
  | count + 1, last => do
    let h := length / Scalar.ofNat j
    match eliminate? here.y.length (stepRows h here.rows) with
    | none => return none
    | some e =>
      let displacement ← smallSteps F e h here.y j (here.y.map fun _ => 0) here.slope
      extrapolationRows F here length (j + 1) count (extrapolated j 1 last displacement)

structure FlowStep (α : Type) where
  y : List α
  error : List α

@[specialize] def flowStep (F : ListField α) (here : Local α) (length : α) :
    Except (Fault α) (Option (FlowStep α)) := do
  match ← extrapolationRows F here length 1 extrapolationOrder [] with
  | none => return none
  | some rows =>
    match rows.reverse with
    | best :: other :: _ =>
      return some ⟨here.y.zipWith (· + ·) best, best.zipWith (· - ·) other⟩
    | _ => return none

end Equilibrium
