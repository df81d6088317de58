import Equilibrium.Choice
import Equilibrium.Tensor

/-!
Why a call fails.

A fault names its cause and carries what the cause was found on; the wording is added in one place,
at double precision. Some causes are met below this library, in arithmetic, indexing or conversion,
and have no wording of its own; functions and collaborators supplied from outside signal failures
of their own, of which three kinds are told apart because a solve reacts to them.
-/

namespace Equilibrium

/-- A failure signalled by a function or collaborator from outside. -/
inductive Signal where
  | singular
  | trapped
  | undefinedStart
  | other (kind : String)
  deriving DecidableEq, Repr

/-- Which of the two selectors of an inner solve a name was read for. -/
inductive Selector where
  | innerMethod
  | derivative
  deriving DecidableEq, Repr

inductive Bound where
  | positive
  | nonNegative
  | aboveOne
  deriving DecidableEq, Repr

inductive Amount (α : Type) where
  | real (x : α)
  | whole (k : Int)

/-- Which of the two engines a fault comes from. They differ in what becomes of a failure below. -/
inductive EngineKind where
  | plain
  /-- Reports that the solve failed, and lets an undefined start through. -/
  | steadyState
  deriving DecidableEq, Repr

inductive Fault (α : Type) where
  | divisionByZero
  | noSuchEntry (index : Int) (axis extent : Nat)
  | tooFewAxes (axes asked : Nat)
  /-- An answer asked for where none was prepared. -/
  | noAnswer
  | ragged
  | negativeLength
  | unfillable (size : Nat) (shape : List Nat)
  /-- Shapes of which neither can be repeated to fill the other. -/
  | unlikeShapes (left right : List Nat)
  | notIterable
  | notNumber
  | unreadable (text : String)
  /-- A number that a kind of whole numbers does not reach. -/
  | beyondKind
  | unknownKind (name : String)
  | notCallable
  | unequalLength
  /-- A function of a single number, or its derivative, with another number of entries than before.
  -/
  | changedSize
  | tooManyAxes
  /-- A value with several axes where the length of a vector is measured. -/
  | notVector
  | bareDerivative
  | notFinite
  | notFiniteSlope
  | noDirection
  | nothingLargest
  | unknownChoice (selector : Selector) (name : String)
  /-- A name that is no setting, where only settings can be named. -/
  | strayName (name : String)
  | unknownIntegrator (name : String)
  | flowStartShape
  | flowStartNotFinite
  | flowTolerance
  | flowJacobianShape (got expected : List Nat)
  | maskShape (shape : List Nat) (n : Int)
  | maskKind
  | maskRange (n : Int) (indices : List Int)
  | residualShape (got expected : List Nat)
  | jacobianShape (got : List Nat)
  | jacobianMissing
  | jacobianUnused (method : InnerMethod)
  | direction (got : Amount α)
  | outOfRange (parameter : String) (bound : Bound) (got : Amount α)
  | invalidChoice (selector : Selector) (name : String)
  | jacobianFree (method : InnerMethod)
  | unknownSetting (name : String)
  | foreignConfig
  | unknownStrategy (name : String)
  | residualNotFunction
  | jacobianNotFunction
  | startShape (got : List Nat)
  | startResidualShape (got expected : List Nat)
  | analyticWithoutJacobian
  | algebraicComponents (strategy : Strategy)
  | infiniteHorizon
  | candidateShape (solver : String) (got expected : List Nat)
  | undefinedStart
  | unbound (engine : EngineKind)
  | relayed (cause : Fault α)
  | solveFailed (cause : Fault α)
  | signalled (signal : Signal) (text : String)

namespace Fault

variable {α : Type}

def isUndefinedStart : Fault α → Bool
  | undefinedStart => true
  | signalled .undefinedStart _ => true
  | _ => false

/-- Whether a fault is a numerical breakdown, which an inner solve answers for instead of failing.
-/
def isBreakdown : Fault α → Bool
  | signalled .singular _ => true
  | signalled .trapped _ => true
  | _ => false

/-- Whether the wording of a fault is fixed, by this library or by whoever signalled it. The others
are met below the library. -/
def isWorded : Fault α → Bool
  | divisionByZero | noSuchEntry .. | tooFewAxes .. | noAnswer | ragged | negativeLength
  | unfillable .. | unlikeShapes .. | notIterable | notNumber | unreadable .. | beyondKind
  | unknownKind .. | notCallable | unequalLength | changedSize | tooManyAxes | notVector
  | bareDerivative | notFinite | notFiniteSlope | noDirection | nothingLargest | unknownChoice ..
  | strayName .. | unknownIntegrator .. | flowStartShape | flowStartNotFinite | flowTolerance
  | flowJacobianShape .. => false
  | _ => true

end Fault

def InnerMethod.ofName {α : Type} (name : String) : Except (Fault α) InnerMethod :=
  match InnerMethod.ofName? name with
  | some method => .ok method
  | none => .error (.unknownChoice .innerMethod name)

def Derivative.ofName {α : Type} (name : String) : Except (Fault α) Derivative :=
  match Derivative.ofName? name with
  | some derivative => .ok derivative
  | none => .error (.unknownChoice .derivative name)

/-- A function of a state that may fail: a residual or a Jacobian. -/
abbrev Field (α : Type) := Tensor α → Except (Fault α) (Tensor α)

end Equilibrium
