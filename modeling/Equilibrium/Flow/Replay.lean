import Equilibrium.Flow.Integrator
import Equilibrium.Inner.Replay

/-!
Simple integrators: one that gives prepared answers, and the explicit Euler method with a fixed
step.
-/

namespace Equilibrium

variable {α : Type} [Scalar α]

/-! ### Prepared answers -/

inductive PreparedFlow (α : Type) where
  | trajectory (s : Trajectory α)
  | fail (fault : Fault α)

def PreparedFlow.reply : PreparedFlow α → Except (Fault α) (Trajectory α)
  | trajectory s => .ok s
  | fail fault => .error fault

def Integrator.prepared (answers : List (PreparedFlow α)) : Integrator α where
  integrate calls _ := ⟨[], false, do (← preparedFor answers calls).reply⟩

/-! ### Fixed steps -/

def eulerStep (F : Field α) (h : α) (y : Tensor α) : Except (Fault α) (Tensor α) := do
  let slope ← F y
  return y.mapIdx fun i a => a + h * slope.entries.getD i 0

inductive EulerEnd where
  | reached
  | event
  | spent
  deriving DecidableEq, Repr

/-- The nodes after `(t, y)` and how they end. The number of steps allowed bounds the recursion; the
event is asked before the steps are counted. -/
def eulerNodes (call : FlowCall α) (h : α) :
    Nat → α → Tensor α → Except (Fault α) (List (α × Tensor α) × EulerEnd)
  | 0, _, _ => .ok ([], .spent)
  | steps + 1, t, y =>
    if t < call.span.2 then do
      let length := Scalar.capped (call.span.2 - t) h
      let y ← eulerStep call.residual length y
      let t := t + length
      let value ← match call.event with
        | some event => event t y
        | none => .ok 1
      if value ≤ 0 then return ([(t, y)], .event)
      else if steps = 0 then return ([(t, y)], .spent)
      else
        let (nodes, final) ← eulerNodes call h steps t y
        return ((t, y) :: nodes, final)
    else .ok ([], .reached)

/-- The number of steps of a call that sets no limit. -/
def eulerSteps : Int := 10000

def eulerTrajectory (call : FlowCall α) (h : α) : Except (Fault α) (Trajectory α) := do
  let steps := (call.maxSteps.getD eulerSteps).toNat
  let (nodes, final) ← eulerNodes call h steps call.span.1 call.start
  let nodes := (call.span.1, call.start) :: nodes
  return {
    times := nodes.map (·.1)
    states := nodes.map (·.2)
    status := if final = .reached then 0 else 1
    message := ""
    budgetExhausted := final = .spent }

/-- The explicit Euler method with steps of length `h`, the last one cut to the span. -/
def Integrator.euler (h : α) : Integrator α where
  integrate _ call := ⟨[], false, eulerTrajectory call h⟩

end Equilibrium
