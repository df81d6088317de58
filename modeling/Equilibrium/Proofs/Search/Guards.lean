import Equilibrium.Proofs.Search.Shape
import Equilibrium.Proofs.Search.Totality

/-!
Guards that are never met.

An implicit step guards itself against three things: analytic derivatives without a Jacobian, a
Jacobian for a method that cannot use one, and a mask that does not fit the state. None of the three
comes about in a search, each for a reason of its own. The first is checked when the problem is
made, the second when the configuration is, and the third is a matter of every state that the search
commits, whose length is that of the mask.

What is left are the values of the functions, which nobody can know in advance. They are refused
exactly if they do not have the shape that they should have.
-/

namespace Equilibrium

variable {α : Type} [Scalar α] {problem : Problem α} {tools : Toolbox α} {calls : Nat}
  {x : Tensor α} {step : α} {plan : InnerPlan α} {c : Config α} {r : Request α}

/-! ### The steps of a search -/

/-- Pseudo-transient continuation takes an implicit step from a state, of this length and solved in
this way. -/
inductive Problem.Takes (problem : Problem α) (tools : Toolbox α) (calls : Nat) :
    Tensor α → α → InnerPlan α → Prop
  | loop {loop : Loop α} {p : Progress α}
      (begins : (Backend.mk .pseudoTransient tools).Begins calls problem loop p) :
      Takes problem tools calls p.state p.step problem.innerPlan
  | direct {distance : α} (infinite : Scalar.isInf problem.step = true)
      (initial : initialDistance problem = .ok distance) :
      Takes problem tools calls problem.start Scalar.infinity problem.directPlan

namespace Problem

/-- All steps go by the method and the derivatives of the problem. -/
theorem Takes.plan_eq (takes : problem.Takes tools calls x step plan) :
    plan.method = problem.method ∧ plan.derivative = problem.derivative := by
  cases takes with
  | loop begins => exact ⟨rfl, rfl⟩
  | direct infinite initial => exact ⟨rfl, rfl⟩

/-- All steps begin at states like the initial one. -/
theorem Takes.shape_eq (takes : problem.Takes tools calls x step plan) :
    x.shape = problem.start.shape := by
  cases takes with
  | loop begins =>
      obtain ⟨hloop, distance, records, -, path, -⟩ := begins
      have keeps : (Backend.mk .pseudoTransient tools).Keeps problem.start.shape :=
        fun flows => absurd rfl flows
      exact path.invariant (fun hp _ hstep => hstep.keeps_shape keeps hloop hp) rfl
  | direct infinite initial => rfl

/-- Whatever the inner solver is asked, it is asked for such a step. -/
theorem takes_of_mem_run {call : InnerCall α} {reply : InnerReply α}
    (asked : .inner call reply ∈ ((Backend.mk .pseudoTransient tools).run calls problem).notices) :
    ∃ x step plan, problem.Takes tools calls x step plan ∧
      problem.implicitCall plan x step = .ok call := by
  cases hinfinite : Scalar.isInf problem.step with
  | false =>
      have hloop := Backend.loop?_pseudoTransient tools hinfinite
      obtain ⟨p, begins, hcall⟩ := Backend.exists_begins_of_asked hloop asked
      exact ⟨_, _, _, .loop begins, hcall⟩
  | true =>
      cases hdistance : initialDistance problem with
      | error fault =>
          rw [Backend.run_of_initialDistance _ _ hdistance] at asked
          cases asked
      | ok distance =>
          rw [Backend.run_of_infinite tools calls hinfinite hdistance, solveDirectly,
            Traced.mem_bind_notices_iff] at asked
          obtain asked | ⟨answer, -, asked⟩ := asked
          · exact ⟨_, _, _, .direct hinfinite hdistance, implicitCall_of_mem_propose asked⟩
          · obtain asked | ⟨_, -, asked⟩ := Traced.mem_bind_notices_iff.1 asked
            · simp at asked
            · exact absurd asked (Progress.inner_notMem_closing _ _)

/-- What a problem was made of goes together: analytic derivatives come with a method that can use
them. -/
theorem acceptsJacobian_of_create {strategy : Strategy}
    (created : Problem.create strategy c r = .ok problem) (h : problem.derivative = .analytic) :
    problem.method.acceptsJacobian = true := by
  obtain ⟨F, jacobian, start, mask, rfl⟩ := exists_assemble created
  exact Config.acceptsJacobian_of_analytic h

/-! ### Guards -/

/-- The guards of implicit steps are met by the values of functions only. -/
structure Unguarded (problem : Problem α) (tools : Toolbox α) (calls : Nat) : Prop where
  mask : ∀ x step plan, problem.Takes tools calls x step plan →
    (Marking.ofMask problem.mask).mask x.atLeastVector.leading =
      (.ok problem.mask : Except (Fault α) Mask)
  /-- The equation of every step can be set up, and no Jacobian is missing. -/
  called : ∀ x step plan, problem.Takes tools calls x step plan →
    ∃ call, problem.implicitCall plan x step = .ok call
  /-- The inner solver is asked about these steps, and no Jacobian goes with a method that cannot
  use it. -/
  asked : ∀ call reply,
    .inner call reply ∈ ((Backend.mk .pseudoTransient tools).run calls problem).notices →
    (∃ x step plan, problem.Takes tools calls x step plan ∧
      problem.implicitCall plan x step = .ok call) ∧
    (call.jacobian.isSome = true → call.method.acceptsJacobian = true)
  /-- A solver that a numerical routine makes therefore answers with what the routine does. -/
  answered : ∀ call reply,
    .inner call reply ∈ ((Backend.mk .pseudoTransient tools).run calls problem).notices →
    ∀ name (routine : Routine α) k, (InnerSolver.ofRoutine name routine).solve k call =
      .ofRoutine call (routine (RoutineLimits.of call.method call.guess.size call.tol
        call.maxIterations call.verbose) call)
  residual : ∀ (F : Field α) x step, x.shape = problem.start.shape →
    Scalar.isFinite step = true → (step == 0) = false →
    ∃ G, implicitResidual F x step (.ofMask problem.mask) = .ok G ∧
      ∀ y value, y.shape = problem.start.shape → F y = .ok value →
        ((∃ g, G y = .ok g) ↔ value.shape = y.shape) ∧
        (value.shape ≠ y.shape → G y = .error (.residualShape value.shape y.shape))
  jacobian : ∀ (J : Field α) step, Scalar.isFinite step = true → (step == 0) = false →
    ∀ y jac, y.shape = problem.start.shape → J y = .ok jac →
      let n := problem.start.leading
      let G := implicitJacobian J step (.ofMask problem.mask)
      ((∃ g, G y = .ok g) ↔ jac.shape = [n, n]) ∧
        (∀ m, m ≠ n → jac.shape = [m, m] → G y = .error (.maskShape [n] m)) ∧
        ((∀ m, jac.shape ≠ [m, m]) → G y = .error (.jacobianShape jac.shape))

/-- Whatever the inner solver answers, a problem that was made for pseudo-transient continuation is
searched without a guard being met. -/
theorem unguarded (created : Problem.create .pseudoTransient c r = .ok problem)
    (tools : Toolbox α) (calls : Nat) : problem.Unguarded tools calls := by
  have wellFormed := wellFormed_of_create created
  have hpaired : ∀ call reply,
      .inner call reply ∈ ((Backend.mk .pseudoTransient tools).run calls problem).notices →
      call.jacobian.isSome = true → call.method.acceptsJacobian = true := by
    intro call reply asked hsome
    obtain ⟨x, step, plan, takes, hcall⟩ := takes_of_mem_run asked
    obtain ⟨G, J, -, hJ, rfl⟩ := stepCall_eq_ok_iff.1 hcall
    have hanalytic : plan.derivative = .analytic := (stepJacobian_isSome_iff hJ).1 hsome
    obtain ⟨hmethod, hderivative⟩ := takes.plan_eq
    rw [hderivative] at hanalytic
    change plan.method.acceptsJacobian = true
    rw [hmethod]
    exact acceptsJacobian_of_create created hanalytic
  constructor
  case mask =>
    intro x step plan takes
    have hx : x.shape = [problem.start.leading] := takes.shape_eq.trans wellFormed.start
    rw [Tensor.atLeastVector_of_shape hx, Tensor.leading_of_shape hx]
    exact wellFormed.marking
  case called =>
    exact fun x step plan takes => exists_implicitCall wellFormed takes.plan_eq.2 takes.shape_eq
  case asked =>
    exact fun call reply asked => ⟨takes_of_mem_run asked, hpaired call reply asked⟩
  case answered =>
    intro call reply asked name routine k
    have hguard : ¬ (call.jacobian.isSome && !call.method.acceptsJacobian) = true := by
      simpa using hpaired call reply asked
    exact if_neg hguard
  case residual =>
    intro F x step hx hfinite hstep
    rw [wellFormed.start] at hx
    obtain ⟨G, hG⟩ := exists_implicitResidual F step hx wellFormed.marking
    refine ⟨G, hG, fun y value hy hF => ?_⟩
    rw [wellFormed.start] at hy
    rw [hy]
    exact implicitResidual_of_value hG (Scalar.isInf_of_isFinite hfinite) hstep hx
      wellFormed.marking hy hF
  case jacobian =>
    intro J step hfinite hstep y jac hy hJ
    have regularized : isUnregularized step = false := Scalar.isInf_of_isFinite hfinite
    exact implicitJacobian_of_value regularized hstep wellFormed.nonempty wellFormed.mask
      (hy.trans wellFormed.start) hJ

end Problem

/-! ### A pair with an algebraic component -/

def Config.analytic : Config Float where
  settings := { Settings.standard with derivative := "analytic" }
  valid := Option.isNone_iff_eq_none.1 (by decide +kernel)

def Request.pair : Request Float where
  residual := .function .ok
  start := .ok (.vector [1, 1])
  marking := .ofMask [true, false]
  jacobian := .function fun _ => .ok ⟨[2, 2], [1, 0, 0, 1], rfl⟩

def Problem.pair : Problem Float :=
  .assemble .analytic .ok (.vector [1, 1]) [true, false]
    (some fun _ => .ok ⟨[2, 2], [1, 0, 0, 1], rfl⟩)

def Toolbox.pair : Toolbox Float where
  solver := .prepared "prepared" [.state (.vector [Scalar.infinity, 0]) 0,
    .state (.vector [0, 0]) 0]
  integrator _ := .prepared []

namespace Problem

theorem create_pair : create .pseudoTransient .analytic .pair = .ok pair :=
  create_eq_ok_iff.2 ⟨_, _, .vector [1, 1], [true, false], rfl, rfl, rfl, rfl,
    ⟨.vector [1, 1], rfl, rfl⟩, Marking.mask_ofMask (by decide) rfl, by simp,
    Strategy.check_pseudoTransient _ _, rfl⟩

/-- The solver is asked for steps of this problem, each time with a Jacobian. -/
theorem pair_unguarded :
    create .pseudoTransient .analytic .pair = .ok pair ∧
    (innerExchanges ((Backend.mk .pseudoTransient .pair).run 0 .pair).notices).map
      (fun exchange => exchange.1.jacobian.isSome) = [true, true] ∧
    pair.Unguarded .pair 0 :=
  ⟨create_pair, by decide +kernel, unguarded create_pair .pair 0⟩

end Problem

end Equilibrium
