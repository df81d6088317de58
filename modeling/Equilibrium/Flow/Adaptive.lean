import Equilibrium.Flow.Extrapolation
import Equilibrium.Flow.Integrator
import Equilibrium.Tensor.Spread

/-!
Integration with steps of adapted length.

Each step is as long as its error allows and never much longer than the one before. Steps are tried
until one is accurate; where none is, down to the spacing of numbers, the integration has failed.
At the end of each accepted step the events are looked at. An event that stops the integration is
located inside the step by halving; the step budget, which changes its sign at the end of a step
only, needs no locating, and an event inside the step comes first.

The caller's tolerances are met with room to spare: errors are held to a fraction of them, and to a
small value in any case.
-/

namespace Equilibrium

variable {α : Type} [Scalar α]

/-! ### Steps -/

structure ErrorBound (α : Type) where
  relative : α
  absolute : α

def ErrorBound.of (method : FlowMethod α) : ErrorBound α where
  relative := Scalar.larger (Scalar.capped 1e-10 method.rtol) 1e-13
  absolute := Scalar.larger (Scalar.capped 1e-12 (1e-3 * method.atol)) 1e-18

/-- The largest error of a step in units of the bound; undefined if it is undefined anywhere. -/
@[specialize] def ErrorBound.measure (bound : ErrorBound α) (y : List α) (step : FlowStep α) : α :=
  let parts := step.error.mapIdx fun i e =>
    let size := Scalar.larger (Scalar.abs (y.getD i 0)) (Scalar.abs (step.y.getD i 0))
    Scalar.abs e / (bound.absolute + bound.relative * size)
  if parts.all Scalar.isFinite && step.y.all Scalar.isFinite then parts.foldl Scalar.larger 0
  else Scalar.undefined

/-- By how much the next step is longer, after one with the given error. The error of a step grows
with the eighth power of its length. -/
def lengthFactor (error : α) : α :=
  if error == 0 then 5.0
  else
    let factor := 0.8 / Scalar.sqrt (Scalar.sqrt (Scalar.sqrt error))
    if factor ≤ 5.0 then Scalar.larger 0.1 factor else if Scalar.isNaN factor then 0.1 else 5.0

/-- The shortest step at a time: ten times the spacing of numbers there. -/
def shortestStep (t : α) : α := 10.0 * Scalar.epsilon * Scalar.abs t + 1e-300

structure Accepted (α : Type) where
  step : FlowStep α
  slope : List α
  /-- Negative if time runs backwards. -/
  length : α
  /-- The length of the next step, not counting the end of the span. -/
  next : α

inductive Attempt (α : Type) where
  | accepted (found : Accepted α)
  | stuck (undefined : Bool)

/-- The value of the function at the end of a step whose error is within the bound. -/
@[specialize] def slopeAfter (F : ListField α) (step : FlowStep α) (error : α) :
    Except (Fault α) (Option (List α)) := do
  if error ≤ 1 then
    let slope ← F step.y
    return if slope.all Scalar.isFinite then some slope else none
  else return none

/-- Try steps of falling length from `h` on, cut to what remains of the span. A step is accepted if
it is accurate and the function is defined at its end. -/
@[specialize] def acceptStep (F : ListField α) (bound : ErrorBound α) (here : Local α)
    (sign shortest remaining : α) : (tries : Nat) → (undefined : Bool) → (h : α) →
      Except (Fault α) (Attempt α)
  | 0, undefined, _ => return .stuck undefined
  | tries + 1, undefined, h => do
    if h < shortest then return .stuck undefined
    else
      let length := Scalar.capped remaining h
      let shorten := fun undefined factor =>
        acceptStep F bound here sign shortest remaining tries undefined (length * factor)
      match ← flowStep F here (sign * length) with
      | none => shorten false 0.1
      | some step =>
        let error := bound.measure here.y step
        let factor := lengthFactor error
        match ← slopeAfter F step error with
        | some slope =>
          let next := length * factor
          let next := if length < h then Scalar.larger h next else next
          return .accepted ⟨step, slope, sign * length, next⟩
        | none =>
          shorten (Scalar.isNaN error || decide (error ≤ 1)) (Scalar.capped 0.7 factor)

/-- The length of the first step: a hundredth of the time in which the state would change by its own
size. A state without components has no time of its own. -/
def firstStep (bound : ErrorBound α) (y slope : List α) : α :=
  let scaled := fun (v : List α) => supNorm (v.mapIdx fun i a =>
    a / (bound.absolute + bound.relative * Scalar.abs (y.getD i 0)))
  let size := scaled y
  let speed := scaled slope
  if y.isEmpty then Scalar.infinity
  else if size < 1e-5 || speed < 1e-5 || !Scalar.isFinite (size / speed) then 1e-6
  else Scalar.capped 0.01 (0.01 * (size / speed))

/-! ### Nodes -/

structure FlowState (α : Type) where
  t : α
  y : List α
  slope : List α
  h : α
  value : α
  budget : Option (StepBudget α × α)

def FlowState.node (s : FlowState α) : α × List α := (s.t, s.y)

inductive FlowEnd where
  | reached
  | event
  | spent
  | stuck (undefined : Bool)
  deriving DecidableEq, Repr

def FlowEnd.status : FlowEnd → Int
  | reached => 0
  | event | spent => 1
  | stuck _ => -1

def FlowEnd.message (method : String) : FlowEnd → String
  | reached => "The solver successfully reached the end of the integration interval."
  | event | spent => "A termination event occurred."
  | stuck _ =>
    if method = "LSODA" then "Unexpected istate in LSODA."
    else "Required step size is less than spacing between numbers."

/-- The value of the event of a task; without one it never changes. -/
@[specialize] def FlowTask.eventValue (task : FlowTask α) (t : α) (y : List α) :
    Except (Fault α) α :=
  match task.event with
  | some (event, _) => event t (.vector y)
  | none => return 1

def FlowTask.stops (task : FlowTask α) (before after : α) : Bool :=
  match task.event with
  | some (_, rule) => rule.terminal && rule.crossed before after
  | none => false

def locatingSteps : Nat := 52

/-- Locate an event between two fractions of a step, the later of which is past the event: the
fraction closest after it, and the state there. -/
@[specialize] def locate (task : FlowTask α) (F : ListField α) (here : Local α)
    (t length before : α) : (halvings : Nat) → (low high : α) → List α →
      Except (Fault α) (α × List α)
  | 0, _, high, y => return (high, y)
  | halvings + 1, low, high, y => do
    let middle := 0.5 * (low + high)
    match ← flowStep F here (middle * length) with
    | none => return (high, y)
    | some step =>
      let after ← task.eventValue (t + middle * length) step.y
      if task.stops before after then locate task F here t length before halvings low middle step.y
      else locate task F here t length before halvings middle high y

/-- Ask a budget about a time: the budget afterwards with its value, and whether it ran out. -/
def askBudget (budget : Option (StepBudget α × α)) (t : α) :
    Option (StepBudget α × α) × Bool :=
  match budget with
  | none => (none, false)
  | some (budget, before) =>
    let (budget, after) := budget.observe t
    (some (budget, after), EventRule.stopping.crossed before after)

/-! ### Slopes and Jacobians -/

/-- The function of a task on states of `n` components. A value is fitted into a vector of that
length; only the one method that changes between stiff and other equations wants as many entries.
-/
def FlowTask.slopes (task : FlowTask α) (method : FlowMethod α) (n : Nat) :
    ListField α := fun y => do
  let value ← task.residual (.vector y)
  if method.name ≠ "LSODA" then value.asVector n
  else if value.size = n then return value.entries
  else throw (.unlikeShapes value.shape [n])

def suppliedRows (J : Field α) (y : List α) : Except (Fault α) (List (List α)) := do
  let jac ← J (.vector y)
  let n := y.length
  if jac.shape = [n, n] then return rowsOf n n jac.entries
  else throw (.flowJacobianShape jac.shape [n, n])

/-- The move of a component for a difference, towards where it is going. Below a hundredth its size
no longer counts, as the change of the value would be lost to rounding. -/
def flowMove (x slope : α) : α :=
  let size := differenceStep * Scalar.larger 0.01 (Scalar.abs x)
  if slope < 0 then -size else size

@[specialize] def flowDifferences (F : ListField α) (y slope : List α) :
    Except (Fault α) (List (List α)) :=
  differenceRows F y slope (y.zipWith flowMove slope)

@[specialize] def FlowTask.rows (task : FlowTask α) (F : ListField α) (y slope : List α) :
    Except (Fault α) (List (List α)) :=
  match task.jacobian with
  | some J => suppliedRows J y
  | none => flowDifferences F y slope

def allFinite (rows : List (List α)) : Bool := rows.all fun row => row.all Scalar.isFinite

/-- The rows of a Jacobian, or zeros in the place of one that is not finite. A step needs no exact
Jacobian. -/
def usableRows (rows : List (List α)) : List (List α) :=
  if allFinite rows then rows else rows.map fun row => row.map fun _ => 0

/-! ### The integration -/

/-- The nodes after a state, and how the integration ends. The number of steps bounds the recursion
where nothing else does. -/
@[specialize] def flowNodes (task : FlowTask α) (F : ListField α) (bound : ErrorBound α)
    (sign : α) : (steps : Nat) → FlowState α → Except (Fault α) (List (α × List α) × FlowEnd)
  | 0, _ => return ([], .stuck false)
  | steps + 1, s => do
    let remaining := sign * (task.span.2 - s.t)
    if !(0 < remaining) then return ([], .reached)
    else
      let rows ← task.rows F s.y s.slope
      let here : Local α := ⟨s.y, s.slope, usableRows rows⟩
      match ← acceptStep F bound here sign (shortestStep s.t) remaining 400 false s.h with
      | .stuck undefined => return ([], .stuck undefined)
      | .accepted found =>
        let last : Bool := remaining ≤ sign * found.length
        let t := if last then task.span.2 else s.t + found.length
        let y := found.step.y
        let value ← task.eventValue t y
        if task.stops s.value value then
          let (part, y) ← locate task F here s.t found.length s.value locatingSteps 0 1 y
          return ([(s.t + part * found.length, y)], .event)
        else
          let (budget, spent) := askBudget s.budget t
          if spent then return ([(t, y)], .spent)
          else
            let next : FlowState α := ⟨t, y, found.slope, found.next, value, budget⟩
            let (nodes, final) ← flowNodes task F bound sign steps next
            return ((t, y) :: nodes, final)

def flowStepLimit : Nat := 100000

def flowMethods : List String := ["RK23", "RK45", "DOP853", "Radau", "BDF", "LSODA"]

/-- The stiffness of an equation over a span: the size of its Jacobian times the length. -/
@[specialize] def stiffness (rows : List (List α)) (length : α) : α :=
  length * supNorm (rows.map fun row => row.foldl (fun acc a => acc + Scalar.abs a) 0)

/-- Whether the one method that changes between stiff and other equations takes an equation for
stiff: where the span is many times longer than the fastest change. -/
def isStiff (rows : List (List α)) (length : α) : Bool := (50.0 : α) ≤ stiffness rows length

def jacobianFlowMethods : List String := ["Radau", "BDF"]

def FlowTask.components (task : FlowTask α) (method : FlowMethod α) :
    Except (Fault α) (List α) :=
  match task.start.shape with
  | [_] =>
    if !task.start.entries.all Scalar.isFinite then .error .flowStartNotFinite
    else if method.atol < 0 then .error .flowTolerance
    else .ok task.start.entries
  | _ => .error .flowStartShape

/-- Check that the value of the function at the start has a shape together with the state, and that
the function takes a state of that shape. -/
def FlowTask.checkShapes (task : FlowTask α) (y : List α) (value : Tensor α) :
    Except (Fault α) Unit := do
  match commonShape? value.shape [y.length] with
  | none => throw (.unlikeShapes value.shape [y.length])
  | some shape =>
    if shape ≠ [y.length] then
      match (Tensor.vector ((Tensor.vector y).spread shape)).reshape? shape with
      | some y => let _ ← task.residual y
      | none => throw (.unlikeShapes value.shape [y.length])

def checkDifferences (value : Tensor α) : Except (Fault α) Unit :=
  match value.shape with
  | [] => .error (.tooFewAxes 0 1)
  | [_] => .ok ()
  | _ => .error .tooManyAxes

/-- A task with its Jacobian if the method uses it from the start on: the one method that changes
between stiff and other equations does so for stiff ones only. -/
def FlowTask.settled (task : FlowTask α) (method : FlowMethod α) (F : ListField α)
    (y slope : List α) (length : α) : Except (Fault α) (FlowTask α) := do
  if method.name = "LSODA" ∧ task.jacobian.isSome then
    let rows ← flowDifferences F y slope
    return if isStiff rows length then task else { task with jacobian := none }
  else return task

def FlowTask.checkOpening (task : FlowTask α) (method : FlowMethod α) (F : ListField α)
    (y : List α) : Except (Fault α) Unit := do
  if method.name ≠ "LSODA" then
    let value ← task.residual (.vector y)
    task.checkShapes y value
    if jacobianFlowMethods.contains method.name ∧ !y.isEmpty then
      if task.jacobian.isNone then checkDifferences value
      let rows ← task.rows F y (← F y)
      if !allFinite rows then throw .notFinite

/-- The integration of a task by a method of any of the names. A method that takes its Jacobian from
differences fails where it gets stuck for an undefined value. -/
@[specialize] def extrapolationRoutine : FlowRoutine α := fun method task => do
  if !flowMethods.contains method.name then throw (.unknownIntegrator method.name)
  else
    let bound := ErrorBound.of method
    let y ← task.components method
    let F := task.slopes method y.length
    task.checkOpening method F y
    let slope ← F y
    let (t, final) := task.span
    let sign : α := if t < final then 1 else -1
    let task ← task.settled method F y slope (sign * (final - t))
    let value ← task.eventValue t y
    let budget := task.budget.map fun budget => budget.observe t
    let start : FlowState α := ⟨t, y, slope, firstStep bound y slope, value, budget⟩
    let (nodes, ending) ← flowNodes task F bound sign flowStepLimit start
    if ending = .stuck true ∧ jacobianFlowMethods.contains method.name ∧ task.jacobian.isNone then
      throw .notFinite
    let nodes := start.node :: nodes
    let s : Trajectory α := {
      times := nodes.map (·.1)
      states := nodes.map fun node => .vector node.2
      status := ending.status
      message := ending.message method.name
      budgetExhausted := ending = .spent }
    return (s, task.jacobian.isSome)

end Equilibrium
