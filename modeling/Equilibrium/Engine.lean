import Equilibrium.Search.Backend

/-!
Engines.

An engine drives a backend through an interface. The interface turns requests into problems and
remembers the configuration of the last problem it made; it learns of the start of a search, of its
outcome and of its failure. What becomes of a failure depends on the engine: the plain one repeats
the text, the other one reports that the solve failed and keeps the cause, but lets an undefined
start through as it is.
-/

namespace Equilibrium

variable {α : Type} [Scalar α]

/-! ### Interfaces -/

/-- Turns requests into problems for a strategy. -/
structure Interface (α : Type) [Scalar α] where
  strategy : Strategy
  current : Option (Config α)
  bound : Bool

namespace Interface

def ofStrategy (strategy : Strategy) : Interface α := ⟨strategy, none, false⟩

def ofName (name : String) : Except (Fault α) (Interface α) :=
  match Strategy.ofName? name with
  | some strategy => .ok (ofStrategy strategy)
  | none => .error (.unknownStrategy name)

def bind (i : Interface α) : Interface α := { i with bound := true }

/-- Make a problem. The configuration is remembered only if that succeeds. -/
def create (i : Interface α) (c : Config α) (r : Request α) :
    Interface α × Except (Fault α) (Problem α) :=
  match Problem.create i.strategy c r with
  | .ok problem => ({ i with current := some c }, .ok problem)
  | .error fault => (i, .error fault)

end Interface

/-! ### Engines -/

structure Engine (α : Type) [Scalar α] where
  kind : EngineKind
  backend : Backend α
  interface : Option (Interface α)

def EngineKind.escalate (kind : EngineKind) (fault : Fault α) : Fault α :=
  match kind with
  | .plain => .relayed fault
  | .steadyState => if fault.isUndefinedStart then fault else .solveFailed fault

/-- What an engine makes known after a search that ended inside the tolerance. -/
def EngineKind.closing (kind : EngineKind) (o : Outcome α) : List (Notice α) :=
  match kind with
  | .plain => []
  | .steadyState =>
    if o.report.converged.getD false then
      [.succeeded (o.report.iterations.getD 0) o.state o.distance]
    else []

def Engine.drive (engine : Engine α) (calls : Nat) (problem : Problem α) :
    Traced α (Result α) := do
  Traced.tell [.started]
  let outcome ← tryCatch (engine.backend.run calls problem) fun fault => do
    Traced.tell [.notified fault]
    throw (engine.kind.escalate fault)
  Traced.tell (.delivered false :: engine.kind.closing outcome)
  return .ofOutcome problem outcome

/-- Solve a problem, after so many calls to the collaborators. An engine without an interface does
not begin; else the interface is bound to the backend first. -/
def Engine.solve (engine : Engine α) (calls : Nat) (problem : Problem α) :
    Engine α × Traced α (Result α) :=
  match engine.interface with
  | none => (engine, .fail (.unbound engine.kind))
  | some i => ({ engine with interface := some i.bind }, engine.drive calls problem)

end Equilibrium
