import Equilibrium.Proofs.Config
import Equilibrium.Proofs.Trace
import Equilibrium.Session

/-!
Solves taken apart.

A solve returns exactly if the overrides can be merged, a problem can be made of the request and the
backend's search returns; the engine in between adds notices and packs up the outcome. What is known
of searches is so carried to solves by one lemma.
-/

namespace Equilibrium

/-! ### Problems -/

variable {α : Type}

theorem Request.residual?_eq_ok_iff {r : Request α} {F : Field α} :
    r.residual? = .ok F ↔ r.residual = .function F := by
  unfold residual?
  split
  · next h => simp [h]
  · next h =>
      constructor
      · intro h'
        cases h'
      · intro h'
        exact absurd h' (h F)

variable [Scalar α]

theorem Strategy.check_pseudoTransient (c : Config α) (mask : Mask) :
    pseudoTransient.check c mask = .ok () := by
  simp [check]

/-- Only a finite first step makes a horizon. -/
theorem Strategy.isFinite_of_check {c : Config α} {mask : Mask}
    (check : Strategy.horizons.check c mask = .ok ()) :
    Scalar.isFinite c.settings.step = true := by
  unfold Strategy.check at check
  split at check
  · cases check
  · cases hfinite : Scalar.isFinite c.settings.step with
    | true => rfl
    | false =>
        rw [if_pos ⟨rfl, by simp [hfinite]⟩] at check
        cases check

/-- A problem is assembled from the configuration and from what is given with the request. -/
theorem Problem.create_eq_ok_iff {strategy : Strategy} {c : Config α} {r : Request α}
    {problem : Problem α} :
    Problem.create strategy c r = .ok problem ↔
      ∃ F jacobian start mask, r.residual = .function F ∧ r.jacobian? = .ok jacobian ∧
        r.start = .ok start ∧ checkStart start = .ok () ∧
        (∃ value, F start = .ok value ∧ value.shape = start.shape) ∧
        r.marking.mask start.leading = (.ok mask : Except (Fault α) Mask) ∧
        ¬ (c.derivative = .analytic ∧ jacobian.isNone = true) ∧
        strategy.check c mask = .ok () ∧
        problem = .assemble c F start mask jacobian := by
  simp only [create, except_bind_eq_ok_iff, except_guard_eq_ok_iff, ne_eq, Decidable.not_not,
    Request.residual?_eq_ok_iff]
  constructor
  · rintro ⟨F, hF, jacobian, hjacobian, start, hstart, ⟨⟩, hshape, value, hvalue, hfits, mask,
      hmask, hanalytic, ⟨⟩, hcheck, h⟩
    cases h
    exact ⟨F, jacobian, start, mask, hF, hjacobian, hstart, hshape, ⟨value, hvalue, hfits⟩, hmask,
      hanalytic, hcheck, rfl⟩
  · rintro ⟨F, jacobian, start, mask, hF, hjacobian, hstart, hshape, ⟨value, hvalue, hfits⟩, hmask,
      hanalytic, hcheck, rfl⟩
    exact ⟨F, hF, jacobian, hjacobian, start, hstart, (), hshape, value, hvalue, hfits, mask, hmask,
      hanalytic, (), hcheck, rfl⟩

theorem Problem.exists_assemble {strategy : Strategy} {c : Config α} {r : Request α}
    {problem : Problem α} (created : Problem.create strategy c r = .ok problem) :
    ∃ F jacobian start mask, problem = .assemble c F start mask jacobian := by
  obtain ⟨F, jacobian, start, mask, -, -, -, -, -, -, -, -, h⟩ := Problem.create_eq_ok_iff.1 created
  exact ⟨F, jacobian, start, mask, h⟩

/-- The numbers of a problem are in range. -/
theorem Problem.inRange_of_create {strategy : Strategy} {c : Config α} {r : Request α}
    {problem : Problem α} (created : Problem.create strategy c r = .ok problem) :
    problem.settings.InRange := by
  obtain ⟨F, jacobian, start, mask, rfl⟩ := exists_assemble created
  refine { c.inRange with innerTol := fun tol h => ?_ }
  cases h
  change 0 < c.settings.innerTol.getD c.settings.tol
  cases hinner : c.settings.innerTol with
  | none => exact c.inRange.tol
  | some tol => exact c.inRange.innerTol tol hinner

/-- A problem does not depend on the strategy, as long as that can be followed. -/
theorem Problem.create_of_check {strategy strategy' : Strategy} {c : Config α} {r : Request α}
    {problem : Problem α} (created : Problem.create strategy c r = .ok problem)
    (check : strategy'.check c problem.mask = .ok ()) :
    Problem.create strategy' c r = .ok problem := by
  obtain ⟨F, jacobian, start, mask, hF, hjacobian, hstart, hshape, hvalue, hmask, hanalytic, -,
    rfl⟩ := create_eq_ok_iff.1 created
  exact create_eq_ok_iff.2 ⟨F, jacobian, start, mask, hF, hjacobian, hstart, hshape, hvalue, hmask,
    hanalytic, check, rfl⟩

/-! ### Engines and sessions -/

theorem Engine.drive_result_eq_ok_iff {engine : Engine α} {calls : Nat} {problem : Problem α}
    {result : Result α} :
    (engine.drive calls problem).result = .ok result ↔
      ∃ o, (engine.backend.run calls problem).result = .ok o ∧
        result = .ofOutcome problem o := by
  unfold drive
  cases hrun : engine.backend.run calls problem with
  | mk ns r =>
      cases r with
      | ok o => simp [tryCatch, eq_comm]
      | error fault => simp [tryCatch]

namespace Session

variable {s : Session α} {c : Config α} {r : Request α} {result : Result α}

/-- What a session stores is no part of what it answers. -/
theorem run_snd (s : Session α) (problem : Problem α) :
    (s.run problem).2 = s.engine.drive s.calls problem := by
  unfold run Engine.solve
  simp only [engine]
  split
  · rfl
  · rfl

theorem run_result_eq_ok_iff {problem : Problem α} :
    (s.run problem).2.result = .ok result ↔
      ∃ o, (s.backend.run s.calls problem).result = .ok o ∧ result = .ofOutcome problem o := by
  rw [run_snd, Engine.drive_result_eq_ok_iff]
  rfl

theorem solveWith_result_eq_ok_iff :
    (s.solveWith c r).2.result = .ok result ↔
      ∃ problem o, Problem.create s.interface.strategy c r = .ok problem ∧
        (s.backend.run s.calls problem).result = .ok o ∧ result = .ofOutcome problem o := by
  cases hproblem : Problem.create s.interface.strategy c r with
  | error fault => simp [solveWith, Interface.create, hproblem, Traced.fail]
  | ok problem => simp [solveWith, Interface.create, hproblem, run_result_eq_ok_iff]

theorem solve_of_error {o : Overrides α} {keep : Bool} {fault : Fault α}
    (h : s.effective o = .error fault) : s.solve r o keep = (s, .fail fault) := by
  rw [solve, h]

theorem solve_of_ok {o : Overrides α} {keep : Bool} (h : s.effective o = .ok c) :
    s.solve r o keep = solveWith (if keep then { s with config := c } else s) c r := by
  rw [solve, h]

theorem solve_result_eq_ok_iff {o : Overrides α} {keep : Bool} :
    (s.solve r o keep).2.result = .ok result ↔
      ∃ c problem outcome, s.effective o = .ok c ∧
        Problem.create s.interface.strategy c r = .ok problem ∧
        (s.backend.run s.calls problem).result = .ok outcome ∧
        result = .ofOutcome problem outcome := by
  cases hc : s.effective o with
  | error fault => simp [solve, hc, Traced.fail]
  | ok c =>
      cases keep with
      | false => simp [solve, hc, solveWith_result_eq_ok_iff]
      | true => simp [solve, hc, solveWith_result_eq_ok_iff]

end Session

end Equilibrium
