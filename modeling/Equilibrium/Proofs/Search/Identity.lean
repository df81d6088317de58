import Equilibrium.Flow.Replay
import Equilibrium.Inner.Replay
import Equilibrium.Proofs.Residual.Mask
import Equilibrium.Proofs.Session

/-!
The identity.

The simplest problem there is: one component, and a residual that is zero where the state is. It can
be made of every valid configuration with a finite first step, whatever the strategy, and the
distance of a state is its absolute value. General statements about searches are tried on it, with
collaborators that propose one state to be rejected and two to be committed.
-/

namespace Equilibrium

variable {α : Type} [Scalar α]

def unitMatrix : Field α := fun _ => .ok ⟨[1, 1], [1], rfl⟩

def Request.identity (y : α) : Request α where
  residual := .function .ok
  start := .ok (.vector [y])
  marking := .absent
  jacobian := .function unitMatrix

def Problem.identity (c : Config α) (y : α) : Problem α :=
  .assemble c .ok (.vector [y]) [false] (some unitMatrix)

/-- A function of one component makes a problem if it has a value where the search starts and the
strategy can be followed. -/
theorem Problem.create_of_value {strategy : Strategy} {c : Config α} {F : Field α} {y : α}
    {value : Tensor α} (check : strategy.check c [false] = .ok ())
    (hF : F (.vector [y]) = .ok value) (hvalue : value.shape = [1]) :
    Problem.create strategy c ⟨.function F, .ok (.vector [y]), .absent, .function unitMatrix⟩ =
      .ok (.assemble c F (.vector [y]) [false] (some unitMatrix)) := by
  exact create_eq_ok_iff.2 ⟨F, some unitMatrix, .vector [y], [false], rfl, rfl, rfl, rfl,
    ⟨value, hF, hvalue⟩, Marking.mask_absent 1, by simp, check, rfl⟩

/-- With a finite first step every strategy can. -/
theorem Problem.create_single (strategy : Strategy) {c : Config α} {F : Field α} {y : α}
    {value : Tensor α} (hfinite : Scalar.isFinite c.settings.step = true)
    (hF : F (.vector [y]) = .ok value) (hvalue : value.shape = [1]) :
    Problem.create strategy c ⟨.function F, .ok (.vector [y]), .absent, .function unitMatrix⟩ =
      .ok (.assemble c F (.vector [y]) [false] (some unitMatrix)) :=
  create_of_value (by simp [Strategy.check, hfinite]) hF hvalue

theorem Problem.create_identity (strategy : Strategy) {c : Config α}
    (hfinite : Scalar.isFinite c.settings.step = true) (y : α) :
    Problem.create strategy c (.identity y) = .ok (.identity c y) :=
  Problem.create_single strategy hfinite rfl rfl

/-! ### A trial in double precision -/

def Config.double : Config Float where
  settings := .standard
  valid := Option.isNone_iff_eq_none.1 (by decide +kernel)

/-- Collaborators that propose a state to be rejected, then one half, and then zero. -/
def Toolbox.trial : Toolbox Float where
  solver := .prepared "prepared" [.state (.vector [7]) Scalar.infinity, .state (.vector [0.5]) 0,
    .state (.vector [0]) 0]
  integrator _ := .prepared [.trajectory ⟨[1], [.vector [Scalar.infinity]], 0, "", false⟩,
    .trajectory ⟨[1], [.vector [0.5]], 0, "", false⟩,
    .trajectory ⟨[1], [.vector [0]], 0, "", false⟩]

theorem exists_ok_of_toOption {ε β γ : Type} {r : Except ε β} {f : β → γ} {c : γ}
    (h : r.toOption.map f = some c) : ∃ b, r = .ok b ∧ f b = c := by
  cases r with
  | ok b => exact ⟨b, rfl, Option.some.inj h⟩
  | error e => cases h

/-- The trial rejects once and commits twice. -/
theorem Backend.trial_returns (strategy : Strategy) (loops : strategy ≠ .relaxation) :
    ∃ o, ((Backend.mk strategy .trial).run 0 (.identity .double 1)).result = .ok o ∧
      (Result.ofOutcome (.identity .double 1) o).history.map Record.accepted =
        [false, true, true] := by
  refine exists_ok_of_toOption ?_
  cases strategy with
  | pseudoTransient => decide +kernel
  | horizons => decide +kernel
  | relaxation => exact absurd rfl loops

end Equilibrium
