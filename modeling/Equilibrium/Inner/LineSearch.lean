import Equilibrium.Inner.Descent

/-!
Searches along a direction.

A search that has no Jacobian goes from point to point along directions that some model of the
function proposes. The whole direction is taken if that makes the residual shorter; else a part of
it is chosen where a parabola, and after that a cubic, through the lengths seen so far is smallest.
The search ends as soon as no component of the residual is above the bound. How exactly a direction
is asked for follows from how much the residual fell: far from a root it need not be exact.
-/

namespace Equilibrium

variable {α : Type} [Scalar α]

/-! ### Parts of a direction -/

/-- The squared length of the residual at a point, infinite where the residual is not finite. -/
def SearchPoint.merit (p : SearchPoint α) : α :=
  if p.value.all Scalar.isFinite then p.length * p.length else Scalar.infinity

@[specialize] def SearchPoint.along (F : ListField α) (here : SearchPoint α) (direction : List α)
    (part : α) : Except (Fault α) (SearchPoint α) :=
  SearchPoint.at F (here.x.zipWith (fun a d => a + part * d) direction)

structure Trial (α : Type) where
  part : α
  merit : α

namespace Trial

/-- Whether a trial lowers the merit by at least a small part of what its slope promises, which is
the merit itself. -/
def isEnough (before : α) (trial : Trial α) : Bool :=
  trial.merit ≤ before + 1e-4 * trial.part * -before

/-- How far a trial lies above the line that the slope promises. -/
def above (before : α) (trial : Trial α) : α := trial.merit - before + before * trial.part

def parabolaPart (before : α) (whole : Trial α) : α :=
  before / 2.0 / whole.above before

def cubicPart (before : α) (earlier later : Trial α) : α :=
  let p := earlier.part
  let q := later.part
  let scale := p * p * (q * q) * (q - p)
  let a := (p * p * later.above before - q * q * earlier.above before) / scale
  let b := (q * q * q * earlier.above before - p * p * p * later.above before) / scale
  (Scalar.sqrt (Scalar.abs (b * b + 3.0 * a * before)) - b) / (3.0 * a)

/-- The part that the next trial counts for: never less than half of the one before. -/
def shortened (part proposed : α) : α :=
  if part / 2.0 < part - proposed || 1 - proposed / part < 0.96 then part / 2.0 else proposed

end Trial

def leastPart : α := 0.01

def cubicTrials : Nat := 16

/-- Try cubics through two trials: the first point that is good enough, if there is one. -/
@[specialize] def cubicSearch (F : ListField α) (here : SearchPoint α) (direction : List α) :
    (trials : Nat) → (earlier later : Trial α) → Except (Fault α) (Option (SearchPoint α))
  | 0, _, _ => return none
  | trials + 1, earlier, later => do
    if leastPart < later.part then
      let part := Trial.cubicPart here.merit earlier later
      let there ← here.along F direction part
      let found : Trial α := ⟨part, there.merit⟩
      if found.isEnough here.merit then return some there
      else
        let part := Trial.shortened later.part found.part
        cubicSearch F here direction trials later { found with part := part }
    else return none

/-- The next point along a direction. Where no part is good enough the whole of it is taken. -/
@[specialize] def lineSearch (F : ListField α) (here : SearchPoint α) (direction : List α) :
    Except (Fault α) (SearchPoint α) := do
  let there ← here.along F direction 1
  let whole : Trial α := ⟨1, there.merit⟩
  if whole.isEnough here.merit then return there
  else
    let part := whole.parabolaPart here.merit
    let nearer ← here.along F direction part
    let found : Trial α := ⟨part, nearer.merit⟩
    if found.isEnough here.merit then return nearer
    else
      match ← cubicSearch F here direction cubicTrials whole found with
      | some point => return point
      | none => return there

/-! ### Directions -/

/-- A model of a function that proposes directions. -/
structure Directions (σ α : Type) where
  /-- What a point less the direction from it solves, next to that point, with a relative error. -/
  solve : σ → SearchPoint α → (tol : α) → Except (Fault α) (List α × σ)
  learn : σ → (before after : SearchPoint α) → Except (Fault α) σ

def checkFinite (xs : List α) : Except (Fault α) Unit :=
  if xs.all Scalar.isFinite then .ok () else .error .notFinite

def firstForcing : α := 1e-3

/-- The relative error that a direction may have after a step, from that of the last direction and
from the lengths of the residual before and after it. -/
def nextForcing (forcing before after : α) : α :=
  let seen := 0.9 * (after * after) / (before * before)
  let kept := 0.9 * (forcing * forcing)
  Scalar.capped 0.9999 (if kept < 0.1 then seen else Scalar.larger seen kept)

@[specialize] def Directions.next {σ : Type} (directions : Directions σ α) (state : σ)
    (here : SearchPoint α) (forcing : α) : Except (Fault α) (List α × σ) := do
  if here.value.length ≠ here.x.length then
    throw (.unlikeShapes [here.x.length] [here.value.length])
  let tol := Scalar.capped forcing (forcing * here.length)
  let (solution, state) ← directions.solve state here tol
  checkFinite solution
  if euclidean solution == 0 then throw .noDirection
  return (solution.map fun a => -a, state)

structure Descent (σ α : Type) where
  point : SearchPoint α
  state : σ
  forcing : α
  rounds : Nat

namespace Descent

variable {σ : Type}

/-- Whether the search is at a root: at once if nothing is left of the residual, and after a step
if no component is above the bound. -/
def isDone (d : Descent σ α) (bound : α) : Bool :=
  let size := largestOrUndefined d.point.value
  size == 0 || (d.rounds != 0 && decide (size ≤ bound))

@[specialize] def advance (F : ListField α) (directions : Directions σ α) (d : Descent σ α) :
    Except (Fault α) (Descent σ α) := do
  let here := d.point
  let (direction, state) ← directions.next d.state here d.forcing
  checkFinite here.x
  let next ← lineSearch F here direction
  checkFinite next.value
  let state ← directions.learn state here next
  return {
    point := next
    state := state
    forcing := nextForcing d.forcing here.length next.length
    rounds := d.rounds + 1 }

/-- Take steps, at most so many: where they lead, and whether to a root. -/
@[specialize] def search (F : ListField α) (directions : Directions σ α) (bound : α) :
    (steps : Nat) → Descent σ α → Except (Fault α) (Descent σ α × Bool)
  | 0, d => return (d, false)
  | steps + 1, d => do
    if d.point.x.isEmpty || d.point.value.isEmpty then throw .nothingLargest
    else if d.isDone bound then return (d, true)
    else search F directions bound steps (← d.advance F directions)

end Descent

end Equilibrium
