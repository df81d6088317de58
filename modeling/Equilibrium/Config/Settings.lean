import Equilibrium.Fault

/-!
The settings of a solve, and overrides of them.

One record holds every setting of every strategy; a strategy leaves alone those it has no use for.
An override is a partial record: a setting that it does not mention keeps its value, and of two
overrides of one setting the later wins. A name that is no setting is kept, so that it can be
complained about; whether it came with a value is kept too, as some callers may mention any name as
long as they give no value for it. A setting that is mentioned without a value is not overridden,
but whoever has a value of their own for it does not bring that in either.
-/

namespace Equilibrium

variable {α : Type} [Scalar α]

/-- The settings of a solve, as they were given. -/
structure Settings (α : Type) where
  /-- The first pseudo-time step; an infinite one asks for a single direct solve. -/
  step : α
  /-- The largest iteration count at which another outer iteration starts. -/
  maxIterations : Int
  innerIterations : Int
  tol : α
  /-- The inner distance that makes a step acceptable, if it differs from `tol`. -/
  innerTol : Option α
  scale : α
  stepMin : α
  stepMax : α
  backoff : α
  method : String
  derivative : String
  verbose : Bool
  innerVerbose : Bool
  flowMethod : String
  flowRtol : α
  flowAtol : Option α
  horizon : α
  flowSteps : Int

namespace Settings

def standard : Settings α where
  step := 1
  maxIterations := 100
  innerIterations := 25
  tol := 1e-9
  innerTol := none
  scale := 2.0
  stepMin := 1e-12
  stepMax := Scalar.infinity
  backoff := 10.0
  method := "trust_region"
  derivative := "finite"
  verbose := true
  innerVerbose := false
  flowMethod := "BDF"
  flowRtol := 1e-6
  flowAtol := none
  horizon := Scalar.infinity
  flowSteps := 10000

/-! ### Validity -/

/-- What each number has to satisfy, in the order in which complaints are made, with the complaint.
An undefined `stepMin` is not below zero. -/
def ranges (s : Settings α) : List (Bool × Fault α) := [
  (0 < s.step, .outOfRange "step" .positive (.real s.step)),
  (0 ≤ s.maxIterations, .outOfRange "max_iterations" .nonNegative (.whole s.maxIterations)),
  (0 < s.innerIterations, .outOfRange "inner_iterations" .positive (.whole s.innerIterations)),
  (0 < s.tol, .outOfRange "tol" .positive (.real s.tol)),
  (s.innerTol.all (0 < ·), .outOfRange "inner_tol" .positive (.real (s.innerTol.getD 0))),
  (0 < s.scale, .outOfRange "scale" .positive (.real s.scale)),
  (¬ s.stepMin < 0, .outOfRange "step_min" .nonNegative (.real s.stepMin)),
  (0 < s.stepMax, .outOfRange "max_step" .positive (.real s.stepMax)),
  (1 < s.backoff, .outOfRange "backoff" .aboveOne (.real s.backoff)),
  (0 < s.flowSteps, .outOfRange "ode_max_steps" .positive (.whole s.flowSteps)),
  (0 < s.horizon, .outOfRange "horizon" .positive (.real s.horizon))]

def choiceFault? (s : Settings α) : Option (Fault α) :=
  match InnerMethod.ofName? s.method, Derivative.ofName? s.derivative with
  | none, _ => some (.invalidChoice .innerMethod s.method)
  | some _, none => some (.invalidChoice .derivative s.derivative)
  | some _, some .finite => none
  | some m, some .analytic => if m.acceptsJacobian then none else some (.jacobianFree m)

/-- The first thing that is wrong with some settings, if anything. -/
def fault? (s : Settings α) : Option (Fault α) :=
  match s.ranges.find? fun (holds, _) => !holds with
  | some (_, fault) => some fault
  | none => s.choiceFault?

end Settings

/-! ### Overrides -/

structure Overrides (α : Type) where
  step : Option α := none
  maxIterations : Option Int := none
  innerIterations : Option Int := none
  tol : Option α := none
  innerTol : Option α := none
  scale : Option α := none
  stepMin : Option α := none
  stepMax : Option α := none
  backoff : Option α := none
  method : Option String := none
  derivative : Option String := none
  verbose : Option Bool := none
  innerVerbose : Option Bool := none
  flowMethod : Option String := none
  flowRtol : Option α := none
  flowAtol : Option α := none
  horizon : Option α := none
  flowSteps : Option Int := none
  unknown : List String := []
  /-- The names of something that is no setting, mentioned without a value. -/
  idle : List String := []
  /-- The names of settings that are mentioned without a value, and so keep theirs. -/
  blank : List String := []

namespace Overrides

variable {α : Type}

def empty : Overrides α := {}

/-- One override after another: the later value wins. -/
def andThen (a b : Overrides α) : Overrides α where
  step := b.step <|> a.step
  maxIterations := b.maxIterations <|> a.maxIterations
  innerIterations := b.innerIterations <|> a.innerIterations
  tol := b.tol <|> a.tol
  innerTol := b.innerTol <|> a.innerTol
  scale := b.scale <|> a.scale
  stepMin := b.stepMin <|> a.stepMin
  stepMax := b.stepMax <|> a.stepMax
  backoff := b.backoff <|> a.backoff
  method := b.method <|> a.method
  derivative := b.derivative <|> a.derivative
  verbose := b.verbose <|> a.verbose
  innerVerbose := b.innerVerbose <|> a.innerVerbose
  flowMethod := b.flowMethod <|> a.flowMethod
  flowRtol := b.flowRtol <|> a.flowRtol
  flowAtol := b.flowAtol <|> a.flowAtol
  horizon := b.horizon <|> a.horizon
  flowSteps := b.flowSteps <|> a.flowSteps
  unknown := a.unknown ++ b.unknown
  idle := a.idle ++ b.idle
  blank := a.blank ++ b.blank

def strayNames (o : Overrides α) : List String := o.unknown ++ o.idle

end Overrides

def Settings.override {α : Type} (s : Settings α) (o : Overrides α) : Settings α where
  step := o.step.getD s.step
  maxIterations := o.maxIterations.getD s.maxIterations
  innerIterations := o.innerIterations.getD s.innerIterations
  tol := o.tol.getD s.tol
  innerTol := o.innerTol <|> s.innerTol
  scale := o.scale.getD s.scale
  stepMin := o.stepMin.getD s.stepMin
  stepMax := o.stepMax.getD s.stepMax
  backoff := o.backoff.getD s.backoff
  method := o.method.getD s.method
  derivative := o.derivative.getD s.derivative
  verbose := o.verbose.getD s.verbose
  innerVerbose := o.innerVerbose.getD s.innerVerbose
  flowMethod := o.flowMethod.getD s.flowMethod
  flowRtol := o.flowRtol.getD s.flowRtol
  flowAtol := o.flowAtol <|> s.flowAtol
  horizon := o.horizon.getD s.horizon
  flowSteps := o.flowSteps.getD s.flowSteps

@[simp] theorem Settings.override_empty {α : Type} (s : Settings α) :
    s.override Overrides.empty = s := rfl

theorem Settings.override_andThen {α : Type} (s : Settings α) (a b : Overrides α) :
    s.override (a.andThen b) = (s.override a).override b := by
  simp [Settings.override, Overrides.andThen, Option.getD_or, Option.or_assoc]

end Equilibrium
