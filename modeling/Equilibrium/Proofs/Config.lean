import Equilibrium.Config.Basic

/-!
What a valid configuration promises.

The checks of a configuration are a list that is gone through until one fails. That none fails is a
statement about the list; here it is turned into one about the settings, to be read field by field.
A floor of the step that is undefined is let through by the check, which is why its field says only
that the floor is not below zero.
-/

namespace Equilibrium

variable {α : Type} [Scalar α]

structure Settings.InRange (s : Settings α) : Prop where
  step : 0 < s.step
  maxIterations : 0 ≤ s.maxIterations
  innerIterations : 0 < s.innerIterations
  tol : 0 < s.tol
  innerTol : ∀ tol, s.innerTol = some tol → 0 < tol
  scale : 0 < s.scale
  stepMin : ¬ s.stepMin < 0
  stepMax : 0 < s.stepMax
  backoff : 1 < s.backoff
  flowSteps : 0 < s.flowSteps
  horizon : 0 < s.horizon

theorem Settings.fault?_eq_none_iff {s : Settings α} :
    s.fault? = none ↔ s.InRange ∧ s.choiceFault? = none := by
  have hranges : s.ranges.find? (!·.1) = none ↔ s.InRange := by
    simp only [ranges, List.find?_eq_none, List.forall_mem_cons, Bool.not_eq_true',
      Bool.not_eq_false, decide_eq_true_eq, Option.all_eq_true]
    constructor
    · rintro ⟨h₁, h₂, h₃, h₄, h₅, h₆, h₇, h₈, h₉, h₁₀, h₁₁, -⟩
      exact ⟨h₁, h₂, h₃, h₄, h₅, h₆, h₇, h₈, h₉, h₁₀, h₁₁⟩
    · rintro ⟨h₁, h₂, h₃, h₄, h₅, h₆, h₇, h₈, h₉, h₁₀, h₁₁⟩
      exact ⟨h₁, h₂, h₃, h₄, h₅, h₆, h₇, h₈, h₉, h₁₀, h₁₁, by simp⟩
  unfold fault?
  split
  · next holds fault hfind =>
      have hrange : ¬ s.InRange := by
        rw [← hranges]
        exact Option.ne_none_iff_exists'.2 ⟨_, hfind⟩
      simp [hrange]
  · next hfind =>
      have hrange : s.InRange := hranges.1 hfind
      simp [hrange]

theorem Config.inRange (c : Config α) : c.settings.InRange :=
  (Settings.fault?_eq_none_iff.1 c.valid).1

/-- Analytic derivatives go with a method that can use them. -/
theorem Config.acceptsJacobian_of_analytic {c : Config α} (h : c.derivative = .analytic) :
    c.innerMethod.acceptsJacobian = true := by
  have hchoice : c.settings.choiceFault? = none :=
    (Settings.fault?_eq_none_iff.1 c.valid).2
  unfold Settings.choiceFault? at hchoice
  unfold derivative at h
  unfold innerMethod
  split at hchoice
  · cases hchoice
  · cases hchoice
  · next hderivative =>
      rw [hderivative] at h
      cases h
  · next m hmethod hderivative =>
      rw [hmethod]
      split at hchoice
      · next haccepts => exact haccepts
      · cases hchoice

theorem Config.ofOverrides_eq_ok_iff {o : Overrides α} {c : Config α} :
    ofOverrides o = .ok c ↔ o.strayNames = [] ∧ c.settings = Settings.standard.override o := by
  unfold ofOverrides
  split
  · next name rest h => simp [h]
  · next h => simp [h, ofSettings_eq_ok_iff]

theorem Config.merge_eq_ok_iff {c c' : Config α} {o : Overrides α} :
    c.merge o = .ok c' ↔ o.unknown = [] ∧ c'.settings = c.settings.override o := by
  unfold merge
  split
  · next name rest h => simp [h]
  · next h => simp [h, ofSettings_eq_ok_iff]

@[simp] theorem Config.merge_empty (c : Config α) : c.merge .empty = .ok c :=
  ofSettings_eq_ok_iff.2 rfl

end Equilibrium
