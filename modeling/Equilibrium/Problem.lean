import Equilibrium.Config.Basic
import Equilibrium.Flow.Integrator
import Equilibrium.Residual.Mask

/-!
Problems.

A problem is everything that a search for a steady state needs, checked: a residual that answers
with the state's shape at the initial state, a non-empty vector to start from, a mask of its
length, and settings that go with the strategy. The checks are made in a fixed order and the first
that fails is the fault.
-/

namespace Equilibrium

variable {α : Type} [Scalar α]

inductive Callable (α : Type) where
  | absent
  | other
  | function (F : Field α)

structure Request (α : Type) where
  residual : Callable α
  /-- The initial state, or why what was given is no array of numbers. -/
  start : Except (Fault α) (Tensor α)
  marking : Marking
  jacobian : Callable α

structure Problem (α : Type) where
  residual : Field α
  start : Tensor α
  mask : Mask
  jacobian : Option (Field α)
  step : α
  maxIterations : Int
  innerIterations : Int
  tol : α
  innerTol : α
  scale : α
  stepMin : α
  stepMax : α
  backoff : α
  method : InnerMethod
  derivative : Derivative
  verbose : Bool
  innerVerbose : Bool
  flow : FlowMethod α
  horizon : α
  flowSteps : Int

def Request.residual? (r : Request α) : Except (Fault α) (Field α) :=
  match r.residual with
  | .function F => .ok F
  | _ => .error .residualNotFunction

def Request.jacobian? (r : Request α) : Except (Fault α) (Option (Field α)) :=
  match r.jacobian with
  | .absent => .ok none
  | .other => .error .jacobianNotFunction
  | .function J => .ok (some J)

def checkStart (y : Tensor α) : Except (Fault α) Unit :=
  match y.shape with
  | [n] => if n = 0 then .error (.startShape y.shape) else .ok ()
  | _ => .error (.startShape y.shape)

/-- Check that a strategy can be followed with some settings and a mask. -/
def Strategy.check (strategy : Strategy) (c : Config α) (mask : Mask) : Except (Fault α) Unit :=
  if strategy ≠ .pseudoTransient ∧ mask.any id then .error (.algebraicComponents strategy)
  else if strategy = .horizons ∧ !Scalar.isFinite c.settings.step then .error .infiniteHorizon
  else .ok ()

def Problem.assemble (c : Config α) (F : Field α) (start : Tensor α) (mask : Mask)
    (jacobian : Option (Field α)) : Problem α where
  residual := F
  start := start
  mask := mask
  jacobian := jacobian
  step := c.settings.step
  maxIterations := c.settings.maxIterations
  innerIterations := c.settings.innerIterations
  tol := c.settings.tol
  innerTol := c.acceptanceTol
  scale := c.settings.scale
  stepMin := c.settings.stepMin
  stepMax := c.settings.stepMax
  backoff := c.settings.backoff
  method := c.innerMethod
  derivative := c.derivative
  verbose := c.settings.verbose
  innerVerbose := c.settings.innerVerbose
  flow := ⟨c.settings.flowMethod, c.settings.flowRtol, c.flowTolerance⟩
  horizon := c.settings.horizon
  flowSteps := c.settings.flowSteps

/-- The settings that a problem goes by, those left open filled in. -/
def Problem.settings (p : Problem α) : Settings α where
  step := p.step
  maxIterations := p.maxIterations
  innerIterations := p.innerIterations
  tol := p.tol
  innerTol := some p.innerTol
  scale := p.scale
  stepMin := p.stepMin
  stepMax := p.stepMax
  backoff := p.backoff
  method := p.method.name
  derivative := p.derivative.name
  verbose := p.verbose
  innerVerbose := p.innerVerbose
  flowMethod := p.flow.name
  flowRtol := p.flow.rtol
  flowAtol := some p.flow.atol
  horizon := p.horizon
  flowSteps := p.flowSteps

/-- The problem of a request under a strategy and a configuration, or the first check that fails. -/
def Problem.create (strategy : Strategy) (c : Config α) (r : Request α) :
    Except (Fault α) (Problem α) := do
  let F ← r.residual?
  let jacobian ← r.jacobian?
  let start ← r.start
  checkStart start
  let value ← F start
  if value.shape ≠ start.shape then
    throw (.startResidualShape value.shape start.shape)
  let mask ← r.marking.mask start.leading
  if c.derivative = .analytic ∧ jacobian.isNone then
    throw .analyticWithoutJacobian
  strategy.check c mask
  return .assemble c F start mask jacobian

end Equilibrium
