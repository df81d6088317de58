import Equilibrium.Residual.Distance

/-!
Events of an integration.

An event is a function of time and state that is watched for a change of sign. The direction in
which the sign has to change and whether the integration then stops are its rule. Two events matter
here: the trajectory comes within the tolerance of a steady state, and the budget of accepted steps
is used up.
-/

namespace Equilibrium

variable {α : Type} [Scalar α]

/-! ### Rules -/

inductive Direction where
  | falling
  | either
  | rising
  deriving DecidableEq, Repr

def Direction.sign : Direction → Int
  | falling => -1
  | either => 0
  | rising => 1

structure EventRule where
  direction : Direction
  terminal : Bool
  deriving DecidableEq, Repr

def Direction.ofAmount? : Amount α → Option Direction
  | .whole k => [falling, either, rising].find? fun d => d.sign == k
  | .real x => [falling, either, rising].find? fun d => Scalar.ofInt d.sign == x

def EventRule.ofAmount (direction : Amount α) (terminal : Bool) : Except (Fault α) EventRule :=
  match Direction.ofAmount? direction with
  | some d => .ok ⟨d, terminal⟩
  | none => .error (.direction direction)

/-- An event that says nothing of its rule stops at either change. -/
def EventRule.standard : EventRule := ⟨.either, true⟩

/-- Both events below stop an integration when they fall to zero. -/
def EventRule.stopping : EventRule := ⟨.falling, true⟩

def EventRule.crossed (rule : EventRule) (before after : α) : Bool :=
  let rises := decide (before ≤ 0) && decide (0 ≤ after)
  let falls := decide (0 ≤ before) && decide (after ≤ 0)
  match rule.direction with
  | .falling => falls
  | .either => rises || falls
  | .rising => rises

abbrev EventFn (α : Type) := α → Tensor α → Except (Fault α) α

/-! ### Steady state -/

/-- The part of the tolerance at which the event lies, so that a state that triggers it is clearly
inside. -/
def steadyMargin : α := 0.5

/-- The distance above the margin of a tolerance. Where the residual is undefined the event is
infinite, so that it never counts as crossed. -/
def steadyEvent (F : Field α) (tol : α) : EventFn α := fun _ y => do
  let distance ← residualDistance F y
  return if Scalar.isNaN distance then Scalar.infinity else distance - steadyMargin * tol

/-! ### Step budget -/

/-- A budget of steps, as an event that counts how often it is asked about a later time than ever
before. -/
structure StepBudget (α : Type) where
  limit : Nat
  latest : Option α
  taken : Nat
  stop : Option α

namespace StepBudget

def ofLimit (limit : Int) : Except (Fault α) (StepBudget α) :=
  if limit ≤ 0 then .error (.outOfRange "max_steps" .positive (.whole limit))
  else .ok ⟨limit.toNat, none, 0, none⟩

def remaining (budget : StepBudget α) : α := Scalar.ofNat (budget.limit - budget.taken)

/-- Ask a budget about a time. It answers with the steps left, zero at the last allowed step, and
from then on with how far back that step lies. -/
def observe (budget : StepBudget α) (t : α) : StepBudget α × α :=
  match budget.stop with
  | some stop => (budget, stop - t)
  | none =>
    match budget.latest with
    | none =>
      let budget := { budget with latest := some t }
      (budget, budget.remaining)
    | some latest =>
      if latest < t then
        let taken := budget.taken + 1
        if budget.limit ≤ taken then
          ({ budget with latest := some t, taken := taken, stop := some t }, 0)
        else
          let budget := { budget with latest := some t, taken := taken }
          (budget, budget.remaining)
      else (budget, budget.remaining)

def observeAll (budget : StepBudget α) : List α → List α
  | [] => []
  | t :: rest =>
    let (next, value) := budget.observe t
    value :: next.observeAll rest

end StepBudget

end Equilibrium
