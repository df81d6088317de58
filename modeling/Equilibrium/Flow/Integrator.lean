import Equilibrium.Flow.Event
import Equilibrium.Log

/-!
Integrators.

An integrator follows `dy/dt = F(y)` over a span of time. Like an inner solver it comes from
outside and may remember earlier calls. What it returns is a trajectory: the accepted times, the
states at them, and how it ended.

A numerical routine becomes an integrator by the rules of this module: a span of no length is
answered without any evaluation, a budget of steps is checked before the routine starts, and an
integration that stops early leaves a line in the log.
-/

namespace Equilibrium

variable {α : Type} [Scalar α]

/-! ### Trajectories -/

structure Trajectory (α : Type) where
  times : List α
  states : List (Tensor α)
  /-- Zero at the end of the span, one at an event, negative after a failure. -/
  status : Int
  message : String
  budgetExhausted : Bool

namespace Trajectory

variable {α : Type}

def finalState (s : Trajectory α) : Except (Fault α) (Tensor α) :=
  match s.states.getLast? with
  | some y => .ok y
  | none => .error (.noSuchEntry (-1) 0 0)

def finalTime (s : Trajectory α) : Except (Fault α) α :=
  match s.times.getLast? with
  | some t => .ok t
  | none => .error (.noSuchEntry (-1) 0 0)

def terminatedByEvent (s : Trajectory α) : Bool := s.status == 1 && !s.budgetExhausted

end Trajectory

/-! ### Calls -/

structure FlowCall (α : Type) where
  residual : Field α
  start : Tensor α
  span : α × α
  jacobian : Option (Field α)
  event : Option (EventFn α)
  rule : Option EventRule
  maxSteps : Option Int

structure FlowReply (α : Type) where
  log : List (LogLine α)
  usedJacobian : Bool
  outcome : Except (Fault α) (Trajectory α)

/-- An integrator: its reply to the call that follows the given number of earlier ones. -/
structure Integrator (α : Type) where
  integrate : Nat → FlowCall α → FlowReply α

/-! ### Numerical routines -/

structure FlowMethod (α : Type) where
  name : String
  rtol : α
  atol : α

def implicitFlowMethods : List String := ["BDF", "Radau", "LSODA"]

/-- What a routine is asked: the call with its event and rule made definite. -/
structure FlowTask (α : Type) where
  residual : Field α
  start : Tensor α
  span : α × α
  jacobian : Option (Field α)
  event : Option (EventFn α × EventRule)
  budget : Option (StepBudget α)

/-- A routine's outcome: the trajectory, and whether the Jacobian was evaluated. -/
abbrev FlowRoutine (α : Type) :=
  FlowMethod α → FlowTask α → Except (Fault α) (Trajectory α × Bool)

def flowLog (method : FlowMethod α) (maxSteps : Option Int) (s : Trajectory α) :
    List (LogLine α) :=
  let time := s.times.getLastD 0
  let stopped :=
    if s.status < 0 then [.integrationStopped method.name time s.message] else []
  let spent := match maxSteps with
    | some steps => if s.budgetExhausted then [.integrationSpent method.name steps time] else []
    | none => []
  stopped ++ spent

/-- The states of a trajectory over a span of no length: the vector twice, or the slices of an
array of more axes twice. -/
def stillStates (y : Tensor α) : List (Tensor α) :=
  match y.shape with
  | _ :: _ :: _ => y.rows ++ y.rows
  | _ => [y.atLeastVector, y.atLeastVector]

def Trajectory.still (span : α × α) (y : Tensor α) : Trajectory α :=
  ⟨[span.1, span.2], stillStates y, 0, "", false⟩

def FlowCall.budget? (call : FlowCall α) : Except (Fault α) (Option (StepBudget α)) :=
  match call.maxSteps with
  | none => .ok none
  | some limit => do return some (← StepBudget.ofLimit limit)

def FlowCall.task (call : FlowCall α) (method : FlowMethod α) (budget : Option (StepBudget α)) :
    FlowTask α where
  residual := call.residual
  start := call.start
  span := call.span
  jacobian := if implicitFlowMethods.contains method.name then call.jacobian else none
  event := call.event.map fun event => (event, call.rule.getD .standard)
  budget := budget

def Integrator.ofRoutine (method : FlowMethod α) (routine : FlowRoutine α) : Integrator α where
  integrate _ call :=
    if call.span.1 == call.span.2 then ⟨[], false, .ok (.still call.span call.start)⟩
    else
      let outcome := do
        let budget ← call.budget?
        routine method (call.task method budget)
      match outcome with
      | .ok (s, usedJacobian) => ⟨flowLog method call.maxSteps s, usedJacobian, .ok s⟩
      | .error fault => ⟨[], false, .error fault⟩

end Equilibrium
