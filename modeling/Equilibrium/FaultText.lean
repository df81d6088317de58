import Equilibrium.Decimal.Shortest
import Equilibrium.Fault
import Equilibrium.Text.Listing
import Equilibrium.Text.Quoted

/-!
The wording of faults, at double precision.

Numbers in a message are the shortest that read back, shapes stand in parentheses, and a name that
came from outside stands in quotes.
-/

namespace Equilibrium

open Decimal Text

def Amount.text : Amount Float → String
  | .real x => shortest x
  | .whole k => toString k

def Bound.text : Bound → String
  | .positive => "positive"
  | .nonNegative => "non-negative"
  | .aboveOne => "greater than 1"

def Selector.text : Selector → String
  | .innerMethod => "RootMethod"
  | .derivative => "DiffMode"

def EngineKind.text : EngineKind → String
  | .plain => "_PtcBaseEngine"
  | .steadyState => "_SteadyStateEngine"

def unknownChoiceText (selector : Selector) (name : String) : String :=
  quoted name ++ " is not a valid " ++ selector.text

def strategyList : String :=
  "(" ++ String.intercalate ", " (Strategy.all.map fun s => quoted s.name) ++ ")"

def Fault.text : Fault Float → String
  | divisionByZero => "division by zero"
  | noSuchEntry index axis extent =>
    s!"index {index} is out of bounds for axis {axis} with size {extent}"
  | tooFewAxes axes asked =>
    s!"too many indices for array: array is {axes}-dimensional, but {asked} were indexed"
  | noAnswer => "list index out of range"
  | ragged =>
    "setting an array element with a sequence. The requested array has an inhomogeneous shape"
  | negativeLength => "negative dimensions are not allowed"
  | unfillable size shape =>
    s!"cannot reshape array of size {size} into shape {denseShapeText shape}"
  | unlikeShapes left right =>
    "operands could not be broadcast together with shapes " ++ denseShapeText left ++ " " ++
      denseShapeText right ++ " "
  | notIterable => "object is not iterable"
  | notNumber => "object is not a number"
  | unreadable text => "not a number: " ++ quoted text
  | beyondKind => "number does not fit its kind"
  | unknownKind name => "data type " ++ quoted name ++ " not understood"
  | notCallable => "object is not callable"
  | unequalLength => "mismatch between the input and output shape of the function"
  | changedSize => "The array returned by a function changed size between calls"
  | tooManyAxes => "object too deep for desired array"
  | notVector => "cannot unify a number and an array"
  | bareDerivative => "object of too small depth for desired array"
  | notFinite => "array must not contain infs or NaNs"
  | notFiniteSlope => "Function returned non-finite results"
  | noDirection =>
    "Jacobian inversion yielded zero vector. This indicates a bug in the Jacobian approximation."
  | nothingLargest =>
    "zero-size array to reduction operation maximum which has no identity"
  | unknownChoice selector name => unknownChoiceText selector name
  | strayName name => quoted name ++ " is not a setting"
  | unknownIntegrator name => quoted name ++ " is not an integration method"
  | flowStartShape => "`y0` must be 1-dimensional."
  | flowStartNotFinite => "All components of the initial state `y0` must be finite."
  | flowTolerance => "`atol` must be positive."
  | flowJacobianShape got expected =>
    s!"`jac` is expected to have shape {shapeText expected}, but actually has {shapeText got}."
  | maskShape shape n =>
    s!"Algebraic mask has shape {shapeText shape}, expected ({n},)."
  | maskKind =>
    "Algebraic components must be given as a boolean mask or integer indices."
  | maskRange n indices =>
    s!"Algebraic indices must lie in [0, {n}), got {wholeList indices}."
  | residualShape got expected =>
    s!"Residual returned shape {shapeText got} for a state of shape {shapeText expected}."
  | jacobianShape got => s!"Jacobian must be a square matrix, got shape {shapeText got}."
  | jacobianMissing => "Analytic differentiation requires a Jacobian function."
  | jacobianUnused method => s!"Method '{method.name}' does not use a Jacobian."
  | direction got => s!"direction must be -1, 0 or +1, got {got.text}"
  | outOfRange parameter bound got => s!"{parameter} must be {bound.text}, got {got.text}"
  | invalidChoice selector name =>
    "Invalid solver selector: " ++ unknownChoiceText selector name
  | jacobianFree method =>
    s!"Method '{method.name}' is Jacobian-free and cannot use analytic differentiation."
  | unknownSetting name => "Unknown configuration parameter: " ++ name
  | foreignConfig => "Expected SteadyStateConfig, got _PtcBaseConfig"
  | unknownStrategy name => s!"Unknown strategy '{name}', expected one of {strategyList}"
  | residualNotFunction => "residual_fn must be callable"
  | jacobianNotFunction => "jacobian must be callable"
  | startShape got =>
    s!"Initial state must be a non-empty 1-D vector, got shape {shapeText got}"
  | startResidualShape got expected =>
    s!"Residual returned shape {shapeText got} for an initial state of shape {shapeText expected}"
  | analyticWithoutJacobian => "Analytic differentiation requires a Jacobian"
  | algebraicComponents strategy =>
    s!"Strategy '{strategy.name}' integrates an explicit ODE and cannot handle algebraic components"
  | infiniteHorizon => "Fixed-horizon ODE continuation requires a finite initial step"
  | candidateShape solver got expected =>
    s!"{solver} returned a state of shape {shapeText got}, expected {shapeText expected}"
  | undefinedStart => "Residual function returns NaN at the initial state."
  | unbound engine => s!"{engine.text} must be configured with an interface before solving."
  | relayed cause => cause.text
  | solveFailed _ => "Steady-state solve failed"
  | signalled _ text => text

def Fault.message? (fault : Fault Float) : Option String :=
  if fault.isWorded then some fault.text else none

end Equilibrium
