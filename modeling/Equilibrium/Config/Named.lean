import Equilibrium.Config.Basic

/-!
Settings by name.

Every setting has the name by which it is overridden and listed. An override by name sets that one
setting; a name that no setting has, or a value of another kind than the setting's, is kept as
unknown.
-/

namespace Equilibrium

inductive SettingValue (α : Type) where
  | real (x : α)
  | whole (k : Int)
  | flag (b : Bool)
  | word (text : String)

inductive SettingKind where
  | real
  | whole
  | flag
  | word
  deriving DecidableEq, Repr

/-- The settings, in order of their declaration, and what they take. -/
def settingKinds : List (String × SettingKind) := [
  ("step", .real), ("max_iterations", .whole), ("inner_iterations", .whole), ("tol", .real),
  ("inner_tol", .real), ("scale", .real), ("step_min", .real), ("max_step", .real),
  ("backoff", .real), ("method", .word), ("differentiation", .word), ("verbose", .flag),
  ("inner_verbose", .flag), ("ode_method", .word), ("ode_rtol", .real), ("ode_atol", .real),
  ("horizon", .real), ("ode_max_steps", .whole)]

variable {α : Type}

/-- The values of some settings under their names; nothing for a setting that is left open. -/
def Settings.named (s : Settings α) : List (String × Option (SettingValue α)) := [
  ("step", some (.real s.step)), ("max_iterations", some (.whole s.maxIterations)),
  ("inner_iterations", some (.whole s.innerIterations)), ("tol", some (.real s.tol)),
  ("inner_tol", s.innerTol.map .real), ("scale", some (.real s.scale)),
  ("step_min", some (.real s.stepMin)), ("max_step", some (.real s.stepMax)),
  ("backoff", some (.real s.backoff)), ("method", some (.word s.method)),
  ("differentiation", some (.word s.derivative)), ("verbose", some (.flag s.verbose)),
  ("inner_verbose", some (.flag s.innerVerbose)), ("ode_method", some (.word s.flowMethod)),
  ("ode_rtol", some (.real s.flowRtol)), ("ode_atol", s.flowAtol.map .real),
  ("horizon", some (.real s.horizon)), ("ode_max_steps", some (.whole s.flowSteps))]

theorem Settings.map_fst_named (s : Settings α) : s.named.map (·.1) = settingKinds.map (·.1) := rfl

def Overrides.single (name : String) (value : SettingValue α) : Overrides α :=
  match name, value with
  | "step", .real x => { step := some x }
  | "max_iterations", .whole k => { maxIterations := some k }
  | "inner_iterations", .whole k => { innerIterations := some k }
  | "tol", .real x => { tol := some x }
  | "inner_tol", .real x => { innerTol := some x }
  | "scale", .real x => { scale := some x }
  | "step_min", .real x => { stepMin := some x }
  | "max_step", .real x => { stepMax := some x }
  | "backoff", .real x => { backoff := some x }
  | "method", .word text => { method := some text }
  | "differentiation", .word text => { derivative := some text }
  | "verbose", .flag b => { verbose := some b }
  | "inner_verbose", .flag b => { innerVerbose := some b }
  | "ode_method", .word text => { flowMethod := some text }
  | "ode_rtol", .real x => { flowRtol := some x }
  | "ode_atol", .real x => { flowAtol := some x }
  | "horizon", .real x => { horizon := some x }
  | "ode_max_steps", .whole k => { flowSteps := some k }
  | _, _ => { unknown := [name] }

/-- A name without a value says nothing of a setting. -/
def Overrides.silent (name : String) : Overrides α :=
  if (settingKinds.lookup name).isSome then { blank := [name] } else { idle := [name] }

def Overrides.ofNamed (items : List (String × Option (SettingValue α))) : Overrides α :=
  items.foldl (fun acc (name, value) =>
    match value with
    | some value => acc.andThen (single name value)
    | none => acc.andThen (silent name)) .empty

/-- An override on top of parameters that have values of their own: these hold where the override
says nothing, but not for a parameter that it mentions without a value. -/
def Overrides.withDefaults (parameters : List (String × SettingValue α)) (o : Overrides α) :
    Overrides α :=
  (ofNamed ((parameters.filter fun p => p.1 ∉ o.blank).map fun p => (p.1, some p.2))).andThen o

end Equilibrium
