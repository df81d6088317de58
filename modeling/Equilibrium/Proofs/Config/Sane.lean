import Equilibrium.Proofs.Scalar.Double
import Equilibrium.Proofs.Search.Backend
import Equilibrium.Proofs.Search.Identity

/-!
Sane configurations.

A check that asks whether a number is above its bound refuses an undefined one, and all checks but
one ask so. The floor of the step is held against its bound the other way round: it is refused if it
is below zero, which an undefined one is not. So the numbers of a configuration, made and merged in
any way, are defined and in range exactly if its floor is defined, and then every comparison that a
search makes with one of them comes out by the two numbers. With an undefined floor no loop begins.
-/

namespace Equilibrium

open Scalar

variable {α : Type}

theorem Settings.foldl_override (s : Settings α) (first : Overrides α)
    (later : List (Overrides α)) :
    later.foldl override (s.override first) = s.override (later.foldl Overrides.andThen first) := by
  induction later generalizing first with
  | nil => rfl
  | cons o later ih => rw [List.foldl_cons, List.foldl_cons, ← override_andThen, ih]

theorem Settings.choiceFault?_eq_none_iff {s : Settings α} :
    s.choiceFault? = none ↔ ∃ method derivative, InnerMethod.ofName? s.method = some method ∧
      Derivative.ofName? s.derivative = some derivative ∧
      (derivative = .analytic → method.acceptsJacobian = true) := by
  unfold choiceFault?
  cases hmethod : InnerMethod.ofName? s.method with
  | none => simp
  | some method =>
      cases hderivative : Derivative.ofName? s.derivative with
      | none => simp
      | some derivative =>
          cases derivative with
          | finite => simp
          | analytic => simp

variable [Scalar α]

/-! ### Configurations as they come about -/

def Config.build (first : Overrides α) (later : List (Overrides α)) :
    Except (Fault α) (Config α) := do
  later.foldlM merge (← ofOverrides first)

theorem Config.settings_of_foldlM {later : List (Overrides α)} {c c' : Config α}
    (h : later.foldlM merge c = .ok c') :
    c'.settings = later.foldl Settings.override c.settings := by
  induction later generalizing c with
  | nil =>
      cases h
      rfl
  | cons o later ih =>
      rw [List.foldlM_cons, except_bind_eq_ok_iff] at h
      obtain ⟨next, hmerge, hlater⟩ := h
      rw [ih hlater, (merge_eq_ok_iff.1 hmerge).2, List.foldl_cons]

/-- The settings that are built are the standard ones with all the overrides in effect. -/
theorem Config.settings_of_build {first : Overrides α} {later : List (Overrides α)} {c : Config α}
    (built : build first later = .ok c) :
    c.settings = Settings.standard.override (later.foldl Overrides.andThen first) := by
  obtain ⟨c', hfirst, hlater⟩ := except_bind_eq_ok_iff.1 built
  rw [settings_of_foldlM hlater, (ofOverrides_eq_ok_iff.1 hfirst).2, Settings.foldl_override]

/-! ### Sane settings -/

/-- The numbers of some settings that bound or change something in a search. -/
def Settings.numbers (s : Settings α) : List α :=
  [s.step, s.tol, s.scale, s.stepMin, s.stepMax, s.backoff, s.horizon] ++ s.innerTol.toList

/-- Settings whose numbers are defined and in range, and whose selectors go together. -/
structure Settings.Sane (s : Settings α) : Prop extends s.InRange where
  defined : ∀ x ∈ s.numbers, isNaN x = false
  floor : 0 ≤ s.stepMin
  choice : ∃ method derivative, InnerMethod.ofName? s.method = some method ∧
    Derivative.ofName? s.derivative = some derivative ∧
    (derivative = .analytic → method.acceptsJacobian = true)

section Lawful

variable [Lawful α] [Ordered α]

/-- Of settings that nothing is wrong with, the floor alone may be undefined. -/
theorem Settings.sane_iff_defined {s : Settings α} (valid : s.fault? = none) :
    s.Sane ↔ isNaN s.stepMin = false := by
  constructor
  · intro sane
    exact sane.defined _ (by simp [numbers])
  · intro floor
    obtain ⟨range, choice⟩ := fault?_eq_none_iff.1 valid
    refine { range with
      defined := ?_
      floor := Ordered.le_of_not_lt floor isNaN_zero range.stepMin
      choice := choiceFault?_eq_none_iff.1 choice }
    simp only [numbers, List.mem_append, List.mem_cons, List.not_mem_nil, or_false,
      Option.mem_toList]
    rintro x ((rfl | rfl | rfl | rfl | rfl | rfl | rfl) | hx)
    · exact Ordered.isNaN_of_lt range.step
    · exact Ordered.isNaN_of_lt range.tol
    · exact Ordered.isNaN_of_lt range.scale
    · exact floor
    · exact Ordered.isNaN_of_lt range.stepMax
    · exact Ordered.isNaN_of_lt range.backoff
    · exact Ordered.isNaN_of_lt range.horizon
    · exact Ordered.isNaN_of_lt (range.innerTol x hx)

end Lawful

/-! ### Problems and their guards -/

/-- A problem whose comparisons come out by the numbers that are compared: where one fails, the
opposite one holds. -/
structure Problem.Decides (problem : Problem α) : Prop where
  stops : ∀ (backend : Backend α) (loop : Loop α) (p : Progress α),
    backend.loop? problem = some loop → isNaN p.step = false → isNaN p.distance = false →
      loop.continues p = false → p.step < problem.stepMin ∨ p.distance ≤ problem.tol
  unsteady : ∀ p : Progress α, isNaN p.distance = false → p.isSteady problem.tol = false →
    problem.tol < p.distance
  refuses : ∀ (solver : InnerSolver α) (distance : α), isNaN distance = false →
    (problem.pseudoTransientLoop solver).admits distance = false → problem.innerTol < distance

structure Config.Sane (c : Config α) : Prop where
  settings : c.settings.Sane
  problems : ∀ (strategy : Strategy) (r : Request α) (problem : Problem α),
    Problem.create strategy c r = .ok problem → problem.settings.Sane ∧ problem.Decides

/-- Nothing is wrong with the settings of a problem either. -/
theorem Problem.fault?_settings {strategy : Strategy} {c : Config α} {r : Request α}
    {problem : Problem α} (created : Problem.create strategy c r = .ok problem) :
    problem.settings.fault? = none := by
  refine Settings.fault?_eq_none_iff.2 ⟨inRange_of_create created, ?_⟩
  obtain ⟨F, jacobian, start, mask, rfl⟩ := exists_assemble created
  exact Settings.choiceFault?_eq_none_iff.2 ⟨c.innerMethod, c.derivative,
    InnerMethod.ofName?_name _, Derivative.ofName?_name _, Config.acceptsJacobian_of_analytic⟩

theorem Problem.stepMin_of_create {strategy : Strategy} {c : Config α} {r : Request α}
    {problem : Problem α} (created : Problem.create strategy c r = .ok problem) :
    problem.stepMin = c.settings.stepMin := by
  obtain ⟨F, jacobian, start, mask, rfl⟩ := exists_assemble created
  rfl

theorem Problem.decides_of_sane [Ordered α] {problem : Problem α} (sane : problem.settings.Sane) :
    problem.Decides := by
  have hfloor : isNaN problem.stepMin = false :=
    sane.defined _ (by simp [Settings.numbers, settings])
  have htol : isNaN problem.tol = false := sane.defined _ (by simp [Settings.numbers, settings])
  have hinner : isNaN problem.innerTol = false :=
    sane.defined _ (by simp [Settings.numbers, settings])
  refine ⟨fun backend loop p hloop hstep hdistance hstops => ?_, fun p hdistance hunsteady => ?_,
    fun solver distance hdistance hrefuses => ?_⟩
  · rw [Loop.continues, Backend.stepMin_of_loop? hloop, Backend.tol_of_loop? hloop] at hstops
    by_cases hbelow : problem.stepMin ≤ p.step
    · refine .inr (Ordered.le_of_not_lt htol hdistance fun habove => ?_)
      simp [hbelow, habove] at hstops
    · exact .inl (lt_of_not_le hfloor hstep hbelow)
  · exact lt_of_not_le hdistance htol (of_decide_eq_false hunsteady)
  · exact lt_of_not_le hdistance hinner (of_decide_eq_false hrefuses)

variable [Lawful α]

/-- An undefined floor is below no step. -/
theorem Backend.not_continues_of_isNaN {backend : Backend α} {problem : Problem α} {loop : Loop α}
    (hloop : backend.loop? problem = some loop) (undefined : isNaN problem.stepMin = true)
    (p : Progress α) : loop.continues p = false := by
  have hfloor : ¬ problem.stepMin ≤ p.step := Lawful.not_le_of_isNaN _ undefined
  simp [Loop.continues, stepMin_of_loop? hloop, hfloor]

theorem Config.sane_of_defined [Ordered α] {c : Config α}
    (floor : isNaN c.settings.stepMin = false) : c.Sane := by
  refine ⟨(Settings.sane_iff_defined c.valid).2 floor, fun strategy r problem created => ?_⟩
  have sane : problem.settings.Sane := by
    refine (Settings.sane_iff_defined (Problem.fault?_settings created)).2 ?_
    change isNaN problem.stepMin = false
    rw [Problem.stepMin_of_create created, floor]
  exact ⟨sane, Problem.decides_of_sane sane⟩

/-- With an undefined floor a configuration is not sane, and no loop begins. -/
theorem Config.idle_of_undefined {c : Config α} (undefined : isNaN c.settings.stepMin = true) :
    ¬ c.Sane ∧ ∀ (strategy : Strategy) (r : Request α) (problem : Problem α) (backend : Backend α)
      (loop : Loop α) (p : Progress α), Problem.create strategy c r = .ok problem →
        backend.loop? problem = some loop → loop.continues p = false := by
  constructor
  · intro sane
    have floor := sane.settings.defined c.settings.stepMin (by simp [Settings.numbers])
    rw [undefined] at floor
    cases floor
  · intro strategy r problem backend loop p created hloop
    refine Backend.not_continues_of_isNaN hloop ?_ p
    rw [Problem.stepMin_of_create created, undefined]

/-! ### Double precision -/

/-- In double precision, a configuration is sane exactly if the last floor that it was given is
defined; otherwise no loop of a problem that is made with it begins. -/
theorem Config.sane_iff {first : Overrides Float} {later : List (Overrides Float)}
    {c : Config Float} (built : build first later = .ok c) :
    (c.Sane ↔ ∀ floor, (later.foldl Overrides.andThen first).stepMin = some floor →
      isNaN floor = false) ∧
    (¬ c.Sane → ∀ (strategy : Strategy) (r : Request Float) (problem : Problem Float)
      (backend : Backend Float) (loop : Loop Float) (p : Progress Float),
        Problem.create strategy c r = .ok problem → backend.loop? problem = some loop →
          loop.continues p = false) := by
  have hgiven : isNaN c.settings.stepMin = false ↔
      ∀ floor, (later.foldl Overrides.andThen first).stepMin = some floor →
        isNaN floor = false := by
    rw [settings_of_build built]
    change isNaN ((later.foldl Overrides.andThen first).stepMin.getD 1e-12) = false ↔ _
    cases (later.foldl Overrides.andThen first).stepMin with
    | none => simp [show isNaN (1e-12 : Float) = false by decide +kernel]
    | some floor => simp
  cases hfloor : isNaN c.settings.stepMin with
  | false =>
      have sane := sane_of_defined hfloor
      exact ⟨iff_of_true sane (hgiven.1 hfloor), fun insane => absurd sane insane⟩
  | true =>
      obtain ⟨insane, idle⟩ := idle_of_undefined hfloor
      refine ⟨iff_of_false insane fun h => ?_, fun _ => idle⟩
      rw [hgiven.2 h] at hfloor
      cases hfloor

/-- A configuration whose floor was undefined for a while. -/
theorem Config.mended_sane :
    ∃ c : Config Float,
      build { stepMin := some undefined } [{ tol := some 0.5 }, { stepMin := some 0.25 }] = .ok c ∧
        c.Sane := by
  obtain ⟨c, built, -⟩ := exists_ok_of_toOption (f := fun c : Config Float => c.settings.tol)
    (c := 0.5) (r := build { stepMin := some undefined }
      [{ tol := some 0.5 }, { stepMin := some 0.25 }]) (by decide +kernel)
  refine ⟨c, built, (sane_iff built).1.2 fun floor hfloor => ?_⟩
  obtain rfl : 0.25 = floor := Option.some.inj hfloor
  decide +kernel

/-- A configuration that is made with an undefined floor is accepted. -/
theorem Config.floorless_insane :
    ∃ c : Config Float, build { stepMin := some undefined } [] = .ok c ∧
      isNaN c.settings.stepMin = true ∧ ¬ c.Sane ∧
      ∀ loop, (Backend.mk .pseudoTransient .trial).loop? (.identity c 1) = some loop →
        ∀ p, loop.continues p = false := by
  obtain ⟨c, built, undefined⟩ := exists_ok_of_toOption
    (f := fun c : Config Float => isNaN c.settings.stepMin) (c := true)
    (r := build { stepMin := some undefined } []) (by decide +kernel)
  refine ⟨c, built, undefined, (idle_of_undefined undefined).1, fun loop hloop p => ?_⟩
  exact Backend.not_continues_of_isNaN hloop undefined p

end Equilibrium
