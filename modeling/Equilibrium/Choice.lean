/-!
The closed choices of a solve: the strategy, the method of the inner solves, and where their
Jacobian comes from.

A choice arrives as a name. Each type has its list of values, the name of each value, and a reading
that succeeds on exactly those names.
-/

namespace Equilibrium

/-! ### Inner methods -/

/-- How an inner nonlinear solve is carried out. -/
inductive InnerMethod where
  | trustRegion
  | levenbergMarquardt
  | newtonKrylov
  | broyden
  deriving DecidableEq, Repr

namespace InnerMethod

def all : List InnerMethod := [trustRegion, levenbergMarquardt, newtonKrylov, broyden]

def name : InnerMethod → String
  | trustRegion => "trust_region"
  | levenbergMarquardt => "levenberg_marquardt"
  | newtonKrylov => "newton_krylov"
  | broyden => "broyden"

def ofName? (name : String) : Option InnerMethod :=
  all.find? fun m => m.name == name

@[simp] theorem ofName?_name (m : InnerMethod) : ofName? m.name = some m := by
  cases m <;> decide

def acceptsJacobian : InnerMethod → Bool
  | trustRegion | levenbergMarquardt => true
  | newtonKrylov | broyden => false

/-- The constant that stands for a method in a program. -/
def symbol : InnerMethod → String
  | trustRegion => "TRUST_REGION"
  | levenbergMarquardt => "LEVENBERG_MARQUARDT"
  | newtonKrylov => "NEWTON_KRYLOV"
  | broyden => "BROYDEN"

/-- The numerical routine that carries a method out, as the log calls it. -/
def routine : InnerMethod → String
  | trustRegion => "hybr"
  | levenbergMarquardt => "lm"
  | newtonKrylov => "krylov"
  | broyden => "broyden1"

end InnerMethod

/-! ### Derivatives -/

/-- Where the Jacobian of an inner solve comes from. -/
inductive Derivative where
  | finite
  | analytic
  deriving DecidableEq, Repr

namespace Derivative

def all : List Derivative := [finite, analytic]

def name : Derivative → String
  | finite => "finite"
  | analytic => "analytic"

def ofName? (name : String) : Option Derivative :=
  all.find? fun d => d.name == name

@[simp] theorem ofName?_name (d : Derivative) : ofName? d.name = some d := by
  cases d <;> decide

def symbol : Derivative → String
  | finite => "FINITE"
  | analytic => "ANALYTIC"

end Derivative

/-! ### Strategies -/

/-- How a steady state is searched for. -/
inductive Strategy where
  | pseudoTransient
  | horizons
  | relaxation
  deriving DecidableEq, Repr

namespace Strategy

def all : List Strategy := [pseudoTransient, horizons, relaxation]

def name : Strategy → String
  | pseudoTransient => "ptc"
  | horizons => "ode"
  | relaxation => "dynamic"

def ofName? (name : String) : Option Strategy :=
  all.find? fun s => s.name == name

@[simp] theorem ofName?_name (s : Strategy) : ofName? s.name = some s := by
  cases s <;> decide

/-- The component that carries a strategy out, as a session reports it. -/
def component : Strategy → String
  | pseudoTransient => "_PTCBackend"
  | horizons => "_FixedHorizonODEBackend"
  | relaxation => "_DynamicSteadyStateBackend"

end Strategy

end Equilibrium
