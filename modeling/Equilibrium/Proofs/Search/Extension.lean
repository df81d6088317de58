import Equilibrium.Proofs.Scalar.Double
import Equilibrium.Proofs.Search.Backend
import Equilibrium.Proofs.Search.Identity

/-!
Searches that go on longer.

Budget, tolerance and floor decide whether another iteration begins, and nothing else: what an
iteration asks, commits and records does not depend on them. So two searches that differ in nothing
but their guards go the same way as long as both go on, and the one that stops first has done a part
of what the other one does. If it stopped where the other one would have stopped as well, their
results are the same.

An integration is told the tolerance, for it watches for a steady state. Over horizons the tolerance
is therefore no mere guard, and the two searches have it in common.
-/

namespace Equilibrium

variable {α : Type} [Scalar α]

/-! ### Loops with other guards -/

def Loop.guarded (loop : Loop α) (tol stepMin : α) : Loop α :=
  { loop with tol := tol, stepMin := stepMin }

namespace Loop

variable {loop : Loop α} {tol stepMin : α} {calls budget budget' : Nat}
  {p next last' : Progress α} {record : Record α} {records' : List (Record α)}

/-- What an iteration does is no matter of the guard. -/
theorem step_guarded_iff :
    (loop.guarded tol stepMin).Step calls p next record ↔ loop.Step calls p next record := by
  constructor
  · intro h
    cases h with
    | accept candidate distance proposed measured commits =>
        exact .accept candidate distance proposed measured commits
    | reject candidate distance proposed measured discards divides =>
        exact .reject candidate distance proposed measured discards divides
  · intro h
    cases h with
    | accept candidate distance proposed measured commits =>
        have commits : (loop.guarded tol stepMin).commits candidate distance = true := commits
        exact .accept candidate distance proposed measured commits
    | reject candidate distance proposed measured discards divides =>
        have discards : (loop.guarded tol stepMin).commits candidate distance = false := discards
        exact .reject candidate distance proposed measured discards divides

/-- If a loop with a wider guard returns within a larger budget, then so does the loop itself, and
the other one goes on from where it stops. -/
theorem exists_run_of_guarded
    (wider : ∀ q, loop.continues q = true → (loop.guarded tol stepMin).continues q = true)
    (hle : budget ≤ budget')
    (returns : ((loop.guarded tol stepMin).run calls budget' p).result = .ok (last', records')) :
    ∃ last records later, (loop.run calls budget p).result = .ok (last, records) ∧
      (loop.guarded tol stepMin).Path calls p records last ∧
      (loop.guarded tol stepMin).Path calls last later last' ∧ records' = records ++ later := by
  -- By induction on the smaller budget: as long as the loop itself goes on, both runs share their
  -- first iteration, and where it stops there is nothing left to show.
  induction budget generalizing p budget' records' with
  | zero =>
      obtain ⟨path, -, -⟩ := run_result_eq_ok_iff.1 returns
      exact ⟨p, [], records', rfl, .stop p, path, rfl⟩
  | succ budget ih =>
      cases goes : loop.continues p with
      | false =>
          obtain ⟨path, -, -⟩ := run_result_eq_ok_iff.1 returns
          exact ⟨p, [], records', by rw [run_of_not_continues goes], .stop p, path, rfl⟩
      | true =>
          obtain ⟨budget', rfl⟩ : ∃ b, budget' = b + 1 :=
            Nat.exists_eq_succ_of_ne_zero (Nat.ne_zero_of_lt hle)
          obtain ⟨next, record, rest, first, hrest, rfl⟩ :=
            (run_succ_result_eq_ok_iff (wider p goes)).1 returns
          obtain ⟨last, records, later, hrun, before, after, rfl⟩ :=
            ih (Nat.le_of_succ_le_succ hle) hrest
          refine ⟨last, record :: records, later, ?_, .step (wider p goes) first before, after, rfl⟩
          exact (run_succ_result_eq_ok_iff goes).2
            ⟨next, record, records, step_guarded_iff.1 first, hrun, rfl⟩

/-- A path goes no further than where the loop does not go on. -/
theorem Path.eq_of_not_continues {last : Progress α} {records : List (Record α)}
    (path : loop.Path calls p records last) (stops : loop.continues p = false) :
    records = [] ∧ last = p := by
  cases path with
  | stop p => exact ⟨rfl, rfl⟩
  | step goes first rest => simp [stops] at goes

end Loop

/-! ### Problems with other guards -/

/-- A problem is another one with a guard that lets the search go on at least as long. An inner
solver is not told the tolerances of an integration, an integrator is told all of them. -/
structure Problem.Outlasts (problem' problem : Problem α) (strategy : Strategy) : Prop where
  same : problem' = { problem with
    maxIterations := problem'.maxIterations
    tol := problem'.tol
    stepMin := problem'.stepMin
    flow := problem'.flow }
  maxIterations : problem.maxIterations ≤ problem'.maxIterations
  tol : problem'.tol ≤ problem.tol
  stepMin : problem'.stepMin ≤ problem.stepMin
  horizons : strategy = .horizons → problem'.tol = problem.tol ∧ problem'.flow = problem.flow

variable {backend : Backend α} {problem problem' : Problem α} {loop loop' : Loop α} {calls : Nat}

namespace Problem.Outlasts

theorem loop?_eq_guarded (outlasts : problem'.Outlasts problem backend.strategy)
    (h : backend.loop? problem' = some loop') :
    ∃ loop, backend.loop? problem = some loop ∧
      loop' = loop.guarded problem'.tol problem'.stepMin := by
  obtain ⟨hstrategy, hfinite, rfl⟩ | ⟨hstrategy, rfl⟩ := Backend.loop?_eq_some_iff.1 h
  · have hstep : problem'.step = problem.step := by rw [outlasts.same]
    rw [hstep] at hfinite
    refine ⟨_, Backend.loop?_eq_some_iff.2 (.inl ⟨hstrategy, hfinite, rfl⟩), ?_⟩
    rw [outlasts.same]
    rfl
  · obtain ⟨htol, hflow⟩ := outlasts.horizons hstrategy
    refine ⟨_, Backend.loop?_eq_some_iff.2 (.inr ⟨hstrategy, rfl⟩), ?_⟩
    rw [outlasts.same, htol, hflow]
    rfl

theorem initialDistance_eq {strategy : Strategy} (outlasts : problem'.Outlasts problem strategy) :
    initialDistance problem' = initialDistance problem := by
  rw [outlasts.same]
  rfl

theorem start_eq {strategy : Strategy} (outlasts : problem'.Outlasts problem strategy)
    (distance : α) : Progress.start problem'.start problem'.step distance =
      .start problem.start problem.step distance := by
  rw [outlasts.same]

theorem iterationBudget_le {strategy : Strategy} (outlasts : problem'.Outlasts problem strategy) :
    iterationBudget problem.maxIterations ≤ iterationBudget problem'.maxIterations := by
  have hmax := outlasts.maxIterations
  unfold iterationBudget
  omega

variable [Scalar.Transitive α]

theorem continues (outlasts : problem'.Outlasts problem backend.strategy)
    (h : backend.loop? problem = some loop) {p : Progress α} (goes : loop.continues p = true) :
    (loop.guarded problem'.tol problem'.stepMin).continues p = true := by
  rw [Loop.continues_iff, Backend.tol_of_loop? h, Backend.stepMin_of_loop? h] at goes
  exact Loop.continues_iff.2 ⟨Scalar.Transitive.le_trans outlasts.stepMin goes.1,
    Scalar.Transitive.lt_of_le_of_lt outlasts.tol goes.2⟩

end Problem.Outlasts

/-! ### Searches -/

structure Result.Tells (result : Result α) (p : Progress α) : Prop where
  state : result.state = p.state
  distance : result.distance = p.distance
  finalStep : result.finalStep = p.step
  iterations : result.iterations = p.iteration
  accepted : result.accepted = p.accepted
  rejected : result.rejected = p.rejected

/-- What a search with the wider guard does first: it goes through the iterations of the result, and
stands then where the result says. -/
structure Result.Begins (result : Result α) (backend : Backend α) (calls : Nat)
    (problem' : Problem α) (history' : List (Record α)) : Prop where
  history : result.history <+: history'
  stands : ∃ loop' distance p, backend.loop? problem' = some loop' ∧
    initialDistance problem' = .ok distance ∧
    (loop'.run calls result.history.length
      (.start problem'.start problem'.step distance)).result = .ok (p, result.history) ∧
    result.Tells p

/-- Where both tolerances are met, it makes no difference which of them an outcome was measured
by. -/
theorem Progress.ofOutcome_eq {last : Progress α} {records : List (Record α)}
    (within : last.distance ≤ problem.tol) (within' : last.distance ≤ problem'.tol) :
    Result.ofOutcome problem (last.outcome problem.tol records) =
      Result.ofOutcome problem' (last.outcome problem'.tol records) := by
  simp [Result.ofOutcome, Progress.outcome, Progress.isSteady, within, within']

/-- If a search that loops returns, then so does every search that differs from it only in stopping
earlier. That one does the first iterations of the other and ends where the other stands after them;
if it is within the tolerance of the other, the results are equal. -/
theorem Backend.returns_of_outlasts [Scalar.Ordered α] [Scalar.Transitive α] {o' : Outcome α}
    (outlasts : problem'.Outlasts problem backend.strategy)
    (loops : (backend.loop? problem').isSome)
    (returns : (backend.run calls problem').result = .ok o') :
    ∃ o, (backend.run calls problem).result = .ok o ∧
      let result := Result.ofOutcome problem o
      let result' := Result.ofOutcome problem' o'
      result.Begins backend calls problem' result'.history ∧
        (result.distance ≤ problem'.tol → result = result') := by
  obtain ⟨loop', hloop'⟩ := Option.isSome_iff_exists.1 loops
  obtain ⟨loop, hloop, rfl⟩ := outlasts.loop?_eq_guarded hloop'
  obtain ⟨distance, last', records', hdistance, path', hle, hexit, rfl⟩ :=
    (run_result_eq_ok_iff_of_loop? hloop').1 returns
  obtain ⟨last, records, later, hrun, before, after, rfl⟩ :=
    Loop.exists_run_of_guarded (fun q goes => outlasts.continues hloop goes)
      outlasts.iterationBudget_le (Loop.run_result_eq_ok_iff.2 ⟨path', hle, hexit⟩)
  have hstands := Loop.run_result_eq_ok_iff.2 ⟨before, Nat.le_refl _, .inl rfl⟩
  have hreturns : (backend.run calls problem).result = .ok (last.outcome problem.tol records) := by
    rw [outlasts.start_eq] at hrun
    rw [outlasts.initialDistance_eq] at hdistance
    obtain ⟨path, hle, hexit⟩ := Loop.run_result_eq_ok_iff.1 hrun
    exact (run_result_eq_ok_iff_of_loop? hloop).2
      ⟨distance, last, records, hdistance, path, hle, hexit, rfl⟩
  refine ⟨_, hreturns, ⟨List.prefix_append records later, ?_⟩, fun within => ?_⟩
  · exact ⟨_, distance, last, hloop', hdistance, hstands, ⟨rfl, rfl, rfl, rfl, rfl, rfl⟩⟩
  · -- Within the tolerance of the longer search, that one stops here as well.
    have within : last.distance ≤ problem'.tol := within
    have stops : (loop.guarded problem'.tol problem'.stepMin).continues last = false := by
      rw [Loop.not_continues_iff]
      exact fun goes => Scalar.Ordered.not_le_of_lt goes.2 within
    obtain ⟨rfl, rfl⟩ := after.eq_of_not_continues stops
    rw [List.append_nil]
    exact Progress.ofOutcome_eq (Scalar.Transitive.le_trans within outlasts.tol) within

def Problem.hurried : Problem Float :=
  { Problem.identity .double 1 with maxIterations := 1, tol := 0.25, stepMin := 1e-6 }

theorem Problem.identity_outlasts_hurried :
    (Problem.identity .double 1).Outlasts hurried .pseudoTransient where
  same := rfl
  maxIterations := by decide
  tol := by decide +kernel
  stepMin := by decide +kernel
  horizons := nofun

theorem Backend.hurried_returns :
    ∃ o o', ((Backend.mk .pseudoTransient .trial).run 0 .hurried).result = .ok o ∧
      ((Backend.mk .pseudoTransient .trial).run 0 (.identity .double 1)).result = .ok o' ∧
      let result := Result.ofOutcome .hurried o
      let result' := Result.ofOutcome (.identity .double 1) o'
      result.history.map Record.accepted = [false, true] ∧
      result'.history.map Record.accepted = [false, true, true] ∧
      result.Begins ⟨.pseudoTransient, .trial⟩ 0 (.identity .double 1) result'.history := by
  obtain ⟨o', returns', hflags'⟩ := trial_returns .pseudoTransient (by decide)
  obtain ⟨o, returns, hflags⟩ : ∃ o,
      ((Backend.mk .pseudoTransient .trial).run 0 .hurried).result = .ok o ∧
        (Result.ofOutcome .hurried o).history.map Record.accepted = [false, true] :=
    exists_ok_of_toOption (by decide +kernel)
  obtain ⟨loop, hloop⟩ := exists_loop? ⟨.pseudoTransient, .trial⟩ (.identity .double 1) (by decide)
    (by decide +kernel)
  obtain ⟨o₁, returns₁, hbegins, -⟩ := returns_of_outlasts Problem.identity_outlasts_hurried
    (Option.isSome_of_eq_some hloop) returns'
  cases returns.symm.trans returns₁
  exact ⟨o, o', returns, returns', hflags, hflags', hbegins⟩

end Equilibrium
