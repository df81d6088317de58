import Equilibrium.Search.Outcome

/-!
The outer loop.

Two strategies run one and the same loop and differ only in how a candidate is proposed and in
which inner distances they put up with. An iteration proposes a candidate from the committed state,
measures its distance, commits or rejects it by the law of the step, and leaves a record. The loop
goes on while the step is at or above its floor and the distance is above the tolerance; every
iteration is paid for out of a budget, and that the loop ends is a matter of its definition.

Each proposal is one call to a collaborator, so the number of calls made before an iteration is the
number made before the loop plus the number of iterations already begun.
-/

namespace Equilibrium

variable {α : Type} [Scalar α]

structure Candidate (α : Type) where
  state : Tensor α
  /-- The distance that the inner solver reports, undefined where there is none. -/
  innerDistance : α

/-- A loop, apart from where it stands. -/
structure Loop (α : Type) where
  residual : Field α
  propose : Nat → Tensor α → α → Traced α (Candidate α)
  /-- Which inner distances allow a candidate to be committed. -/
  admits : α → Bool
  law : StepLaw α
  tol : α
  stepMin : α
  verbose : Bool

/-- Whether another iteration begins. A comparison with an undefined value fails. -/
def Loop.continues (loop : Loop α) (p : Progress α) : Bool :=
  loop.stepMin ≤ p.step && loop.tol < p.distance

def StepLaw.settle (law : StepLaw α) (p : Progress α) (commit : Bool) (candidate : Tensor α)
    (distance : α) : Except (Fault α) (Progress α) :=
  if commit then .ok (law.accept p candidate distance) else law.reject p

def Progress.begun (p : Progress α) : Progress α := { p with iteration := p.iteration + 1 }

/-- What an iteration makes known after it has been settled. -/
def Loop.notices (loop : Loop α) (p : Progress α) (r : Record α) : List (Notice α) :=
  [.line (r.line loop.verbose), .iterated p.iteration p.state p.distance]

def Loop.iterate (loop : Loop α) (calls : Nat) (p : Progress α) :
    Traced α (Progress α × Record α) := do
  let candidate ← loop.propose (calls + p.iteration) p.state p.step
  let distance ← Traced.lift (candidateDistance loop.residual candidate.state)
  let commit := loop.admits candidate.innerDistance && Scalar.isFinite distance
  let next ← Traced.lift (loop.law.settle p.begun commit candidate.state distance)
  let record : Record α :=
    ⟨next.iteration, p.step, distance, candidate.innerDistance, next.coef, commit⟩
  Traced.tell (loop.notices next record)
  return (next, record)

/-- At most so many iterations: where they lead, and their records. -/
def Loop.run (loop : Loop α) (calls : Nat) :
    (budget : Nat) → Progress α → Traced α (Progress α × List (Record α))
  | 0, p => return (p, [])
  | budget + 1, p =>
    if loop.continues p then do
      let (next, record) ← loop.iterate calls p
      let (last, records) ← loop.run calls budget next
      return (last, record :: records)
    else return (p, [])

def Problem.stepLaw (problem : Problem α) : StepLaw α :=
  ⟨problem.scale, problem.backoff, problem.stepMax⟩

/-- The iterations that a limit allows: one begins as long as the number of those before it is not
above the limit. -/
def iterationBudget (limit : Int) : Nat := (limit + 1).toNat

def Loop.search (loop : Loop α) (calls : Nat) (problem : Problem α) (distance : α) :
    Traced α (Outcome α) := do
  let start := Progress.start problem.start problem.step distance
  let (last, records) ← loop.run calls (iterationBudget problem.maxIterations) start
  last.finish problem.tol records

end Equilibrium
