import Equilibrium.Config.Named
import Equilibrium.Engine

/-!
Sessions.

A session holds a configuration and an engine and solves one request after another. Overrides that
come with a request hold for that request, unless they are to be kept; then they are merged into
the stored configuration before anything else is tried, and stay there whatever becomes of the
solve. The stored result is that of the last solve that came to an end.
-/

namespace Equilibrium

variable {α : Type} [Scalar α]

inductive Opening (α : Type) [Scalar α] where
  | standard
  | config (c : Config α)
  | foreign

def Opening.config? : Opening α → Except (Fault α) (Config α)
  | standard => Config.standard
  | config c => .ok c
  | foreign => .error .foreignConfig

structure Session (α : Type) [Scalar α] where
  config : Config α
  backend : Backend α
  interface : Interface α
  results : Option (Result α)
  /-- How many calls the collaborators have had. -/
  calls : Nat

namespace Session

def openWith (i : Interface α) (tools : Toolbox α) (opening : Opening α) :
    Except (Fault α) (Session α) := do
  let config ← opening.config?
  return ⟨config, ⟨i.strategy, tools⟩, i.bind, none, 0⟩

def ofName (name : String) (tools : Toolbox α) (opening : Opening α) :
    Except (Fault α) (Session α) := do
  let i ← Interface.ofName name
  openWith i tools opening

def engine (s : Session α) : Engine α :=
  ⟨.steadyState, s.backend, some s.interface⟩

def update (s : Session α) (o : Overrides α) : Session α × Except (Fault α) Unit :=
  match s.config.merge o with
  | .ok config => ({ s with config := config }, .ok ())
  | .error fault => (s, .error fault)

/-- The configuration that a solve with some overrides takes, which may name settings only. -/
def effective (s : Session α) (o : Overrides α) : Except (Fault α) (Config α) :=
  match o.strayNames with
  | name :: _ => .error (.strayName name)
  | [] => s.config.merge o

def run (s : Session α) (problem : Problem α) : Session α × Traced α (Result α) :=
  let (engine, traced) := s.engine.solve s.calls problem
  let s := { s with
    interface := engine.interface.getD s.interface
    calls := s.calls + callCount traced.notices }
  match traced.result with
  | .ok result => ({ s with results := some result }, traced)
  | .error _ => (s, traced)

def solveWith (s : Session α) (c : Config α) (r : Request α) : Session α × Traced α (Result α) :=
  match s.interface.create c r with
  | (i, .ok problem) => run { s with interface := i } problem
  | (i, .error fault) => ({ s with interface := i }, .fail fault)

/-- Solve a request with some overrides, which are kept if the caller says so. -/
def solve (s : Session α) (r : Request α) (o : Overrides α) (keep : Bool) :
    Session α × Traced α (Result α) :=
  match s.effective o with
  | .error fault => (s, .fail fault)
  | .ok c => solveWith (if keep then { s with config := c } else s) c r

end Session

/-! ### Single solves -/

/-- The state and the distance of a steady state, found with a strategy from the standard
configuration under some overrides. -/
def findSteadyState (strategy : Strategy) (tools : Toolbox α) (r : Request α) (o : Overrides α) :
    Traced α (Tensor α × α) := do
  let standard ← Traced.lift Config.standard
  let config ← Traced.lift (standard.merge o)
  let session ← Traced.lift (Session.openWith (.ofStrategy strategy) tools (.config config))
  let result ← (session.solve r .empty false).2
  return (result.state, result.distance)

/-- The parameters that a single pseudo-transient solve has values of its own for. -/
def pseudoTransientDefaults : List (String × SettingValue α) := [
  ("step", .real 1), ("max_iterations", .whole 100), ("inner_iterations", .whole 25),
  ("verbose", .flag true), ("inner_verbose", .flag false), ("method", .word "trust_region"),
  ("differentiation", .word "finite"), ("tol", .real 1e-9), ("scale", .real 2.0)]

def horizonDefaults : List (String × SettingValue α) := [
  ("step", .real 1), ("max_iterations", .whole 100), ("verbose", .flag true), ("tol", .real 1e-9),
  ("scale", .real 2.0), ("ode_method", .word "BDF")]

def relaxationDefaults : List (String × SettingValue α) := [
  ("tol", .real 1e-9), ("horizon", .real Scalar.infinity), ("verbose", .flag true),
  ("ode_method", .word "BDF")]

def pseudoTransientSolve (tools : Toolbox α) (r : Request α) (o : Overrides α) :
    Traced α (Tensor α × α) :=
  findSteadyState .pseudoTransient tools r (o.withDefaults pseudoTransientDefaults)

/-- A request under a strategy that takes no algebraic components, and so no word on them. -/
def Request.withoutMarking (r : Request α) : Except (Fault α) (Request α) :=
  match r.marking with
  | .absent => .ok r
  | _ => .error (.unknownSetting "algebraic")

def horizonSolve (tools : Toolbox α) (r : Request α) (o : Overrides α) :
    Traced α (Tensor α × α) := do
  findSteadyState .horizons tools (← r.withoutMarking) (o.withDefaults horizonDefaults)

def relaxationSolve (tools : Toolbox α) (r : Request α) (o : Overrides α) :
    Traced α (Tensor α × α) := do
  findSteadyState .relaxation tools (← r.withoutMarking) (o.withDefaults relaxationDefaults)

end Equilibrium
