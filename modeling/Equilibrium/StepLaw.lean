import Equilibrium.Fault

/-!
The law of the pseudo-time step.

After a committed iteration the step grows by the relative improvement of the distance, `h · c · d
/ d'` with `d` the old and `d'` the new distance, and is cut at a ceiling. The coefficient `c` is
multiplied by a fixed factor at every iteration that does not make things worse and falls back to
one otherwise. A rejected iteration divides the step and resets the coefficient. A distance of
zero, from which no improvement can be measured, takes the ceiling itself.
-/

namespace Equilibrium

variable {α : Type} [Scalar α]

structure StepLaw (α : Type) where
  scale : α
  backoff : α
  ceiling : α

structure Progress (α : Type) where
  state : Tensor α
  step : α
  coef : α
  distance : α
  iteration : Nat
  accepted : Nat
  rejected : Nat

def Progress.start (state : Tensor α) (step distance : α) : Progress α :=
  ⟨state, step, 1, distance, 0, 0, 0⟩

namespace StepLaw

def standard : StepLaw α := ⟨2.0, 10.0, Scalar.infinity⟩

def grow (law : StepLaw α) (step coef old new : α) : α :=
  if new == 0 then law.ceiling else Scalar.capped law.ceiling (step * coef * old / new)

def compound (law : StepLaw α) (coef old new : α) : α :=
  if new ≤ old then law.scale * coef else 1

def accept (law : StepLaw α) (p : Progress α) (candidate : Tensor α) (distance : α) : Progress α :=
  let coef := law.compound p.coef p.distance distance
  { p with
    state := candidate
    step := law.grow p.step coef p.distance distance
    coef := coef
    distance := distance
    accepted := p.accepted + 1 }

/-- Keep the committed state and shorten the step. -/
def reject (law : StepLaw α) (p : Progress α) : Except (Fault α) (Progress α) :=
  if law.backoff == 0 then .error .divisionByZero
  else .ok { p with step := p.step / law.backoff, coef := 1, rejected := p.rejected + 1 }

/-! ### What a transition leaves alone -/

@[simp] theorem accept_state (law : StepLaw α) (p : Progress α) (y : Tensor α) (d : α) :
    (law.accept p y d).state = y := rfl

@[simp] theorem accept_distance (law : StepLaw α) (p : Progress α) (y : Tensor α) (d : α) :
    (law.accept p y d).distance = d := rfl

@[simp] theorem accept_iteration (law : StepLaw α) (p : Progress α) (y : Tensor α) (d : α) :
    (law.accept p y d).iteration = p.iteration := rfl

@[simp] theorem accept_accepted (law : StepLaw α) (p : Progress α) (y : Tensor α) (d : α) :
    (law.accept p y d).accepted = p.accepted + 1 := rfl

@[simp] theorem accept_rejected (law : StepLaw α) (p : Progress α) (y : Tensor α) (d : α) :
    (law.accept p y d).rejected = p.rejected := rfl

end StepLaw

end Equilibrium
