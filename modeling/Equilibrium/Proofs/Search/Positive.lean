import Equilibrium.Proofs.Config
import Equilibrium.Proofs.Scalar.Exact
import Equilibrium.Proofs.Search.Totality

/-!
Steps above zero.

In exact arithmetic a committed iteration leaves a step above zero, since it multiplies and divides
values above zero and is cut at a ceiling above zero. A rejected one divides the step by the
backoff, which is above one, and leaves a step above zero if the backoff is finite. An infinite
backoff, which a configuration may have, brings a finite step to zero at once. The floor of the step
then ends the search, unless it is zero itself: a step of zero is not below a floor of zero.
Settings that allow this are said to stall. With all others every iteration begins with a step above
zero, and nothing that a search makes of its functions divides by zero.
-/

namespace Equilibrium

/-! ### One iteration -/

structure Loop.InRange (loop : Loop Exact) : Prop where
  tol : 0 < loop.tol
  stepMin : ¬ loop.stepMin < 0
  scale : 0 < loop.law.scale
  ceiling : 0 < loop.law.ceiling
  backoff : 1 < loop.law.backoff

/-- The coefficient is above zero, and so is the step wherever the loop goes on. -/
def Progress.Positive (p : Progress Exact) (loop : Loop Exact) : Prop :=
  0 < p.coef ∧ (loop.continues p = true → 0 < p.step)

namespace StepLaw

variable {law : StepLaw Exact} {step coef old new : Exact}

theorem zero_lt_compound (scale : 0 < law.scale) (hcoef : 0 < coef) :
    0 < law.compound coef old new := by
  unfold compound
  split
  · exact Exact.zero_lt_mul scale hcoef
  · exact Exact.zero_lt_one

theorem zero_lt_grow (ceiling : 0 < law.ceiling) (hstep : 0 < step) (hcoef : 0 < coef)
    (hold : 0 < old) (hnew : 0 ≤ new) (hfinite : Scalar.isFinite new = true) :
    0 < law.grow step coef old new := by
  unfold grow
  split
  · exact ceiling
  · next h =>
      have hnew' : 0 < new := Exact.zero_lt_of_le hnew (Bool.eq_false_iff.2 h)
      have hquotient : 0 < step * coef * old / new :=
        Exact.zero_lt_div (Exact.zero_lt_mul (Exact.zero_lt_mul hstep hcoef) hold) hnew'
          (Scalar.isInf_of_isFinite hfinite)
      unfold Scalar.capped
      split
      · exact ceiling
      · exact hquotient

theorem zero_lt_div_backoff (backoff : 1 < law.backoff) (hstep : 0 < step)
    (hfinite : law.backoff ≠ Scalar.infinity) : 0 < step / law.backoff := by
  have hbackoff : 0 < law.backoff := Exact.zero_lt_of_lt Exact.zero_lt_one backoff
  obtain hinf | ⟨b, -, hb⟩ := Exact.zero_lt_iff.1 hbackoff
  · exact absurd hinf hfinite
  · exact Exact.zero_lt_div hstep hbackoff (by simp [hb])

end StepLaw

variable {loop : Loop Exact} {calls : Nat} {p next : Progress Exact} {record : Record Exact}

/-- An iteration keeps step and coefficient above zero, unless an infinite backoff meets a floor of
zero. -/
theorem Loop.Step.positive (range : loop.InRange)
    (keeps : loop.stepMin ≠ 0 ∨ loop.law.backoff ≠ Scalar.infinity)
    (goes : loop.continues p = true) (hp : p.Positive loop)
    (h : loop.Step calls p next record) : next.Positive loop := by
  obtain ⟨hcoef, hstep⟩ := hp
  have hstep := hstep goes
  have hdistance : 0 < p.distance := Exact.zero_lt_of_lt range.tol (continues_iff.1 goes).2
  cases h with
  | accept candidate distance proposed measured commits =>
      have hfinite : Scalar.isFinite distance = true := (Bool.and_eq_true_iff.1 commits).2
      have hnonneg : 0 ≤ distance := (candidateDistance_nonneg measured).2
      have hcompound : 0 < loop.law.compound p.coef p.distance distance :=
        StepLaw.zero_lt_compound range.scale hcoef
      exact ⟨hcompound, fun _ =>
        StepLaw.zero_lt_grow range.ceiling hstep hcompound hdistance hnonneg hfinite⟩
  | reject candidate distance proposed measured discards divides =>
      refine ⟨Exact.zero_lt_one, fun hgo => ?_⟩
      refine StepLaw.zero_lt_div_backoff range.backoff hstep fun hinfinite => ?_
      -- What is left of the step is not above zero, so the floor is zero, and that is excluded.
      have hstepMin : loop.stepMin ≠ 0 := keeps.resolve_right (not_not_intro hinfinite)
      rw [continues_iff, hinfinite] at hgo
      obtain hzero | hundefined := Exact.div_infinity p.step
      · rw [hzero] at hgo
        exact hstepMin (Exact.eq_zero_of_le hgo.1 range.stepMin)
      · rw [hundefined] at hgo
        exact Exact.not_le_undefined _ hgo.1

/-! ### Searches -/

/-- The settings under which a search may come to a second iteration. -/
structure Settings.Repeats (s : Settings Exact) : Prop where
  step : Scalar.isInf s.step = false
  stepMin : s.stepMin ≤ s.step
  maxIterations : 0 < s.maxIterations
  tol : s.tol ≠ Scalar.infinity

/-- The settings under which one rejection leaves a step of zero with an iteration still to come. -/
structure Settings.Stalls (s : Settings Exact) : Prop where
  step : Scalar.isInf s.step = false
  stepMin : s.stepMin = 0
  backoff : s.backoff = Scalar.infinity
  maxIterations : 0 < s.maxIterations
  tol : s.tol ≠ Scalar.infinity

namespace Backend

/-- Every iteration that a search begins, whatever becomes of it, begins with a step above zero. -/
def PositiveSteps (backend : Backend Exact) (calls : Nat) (problem : Problem Exact) : Prop :=
  ∀ loop distance records p, backend.loop? problem = some loop →
    initialDistance problem = .ok distance →
    loop.Path calls (.start problem.start problem.step distance) records p →
    records.length < iterationBudget problem.maxIterations → loop.continues p = true → 0 < p.step

variable {c : Config Exact} {strategy : Strategy} {r : Request Exact} {problem : Problem Exact}
  {tools : Toolbox Exact}

theorem inRange_of_loop? {backend : Backend Exact}
    (created : Problem.create strategy c r = .ok problem)
    (h : backend.loop? problem = some loop) : loop.InRange := by
  have hlaw : loop.law = problem.stepLaw := law_of_loop? h
  have htol : loop.tol = problem.tol := tol_of_loop? h
  have hstepMin : loop.stepMin = problem.stepMin := stepMin_of_loop? h
  obtain ⟨F, jacobian, start, mask, rfl⟩ := Problem.exists_assemble created
  have range : c.settings.InRange := c.inRange
  constructor
  case tol => rw [htol]; exact range.tol
  case stepMin => rw [hstepMin]; exact range.stepMin
  case scale => rw [hlaw]; exact range.scale
  case ceiling => rw [hlaw]; exact range.stepMax
  case backoff => rw [hlaw]; exact range.backoff

/-- A search that loops has a finite first step. -/
theorem isInf_step_of_loop? (created : Problem.create strategy c r = .ok problem)
    (h : (Backend.mk strategy tools).loop? problem = some loop) :
    Scalar.isInf c.settings.step = false := by
  obtain ⟨F, jacobian, start, mask, -, -, -, -, -, -, -, hcheck, rfl⟩ :=
    Problem.create_eq_ok_iff.1 created
  obtain ⟨-, hfinite, -⟩ | ⟨hstrategy, -⟩ := loop?_eq_some_iff.1 h
  · exact hfinite
  · cases (hstrategy : strategy = .horizons)
    exact Scalar.isInf_of_isFinite (Strategy.isFinite_of_check hcheck)

/-- An iteration that is not the first tells that the settings allow a second one. -/
theorem Begins.eq_start_or_repeats (created : Problem.create strategy c r = .ok problem)
    (begins : (Backend.mk strategy tools).Begins calls problem loop p) :
    (∃ distance, p = .start problem.start problem.step distance) ∨ c.settings.Repeats := by
  obtain ⟨hloop, distance, records, -, path, hlt, goes⟩ := begins
  have hfinite : Scalar.isInf c.settings.step = false := isInf_step_of_loop? created hloop
  have htol : loop.tol = problem.tol := tol_of_loop? hloop
  have hstepMin : loop.stepMin = problem.stepMin := stepMin_of_loop? hloop
  obtain ⟨F, jacobian, start, mask, rfl⟩ := Problem.exists_assemble created
  cases path with
  | stop => exact .inl ⟨distance, rfl⟩
  | @step _ _ _ record records first_goes first rest =>
      right
      constructor
      case step => exact hfinite
      case stepMin =>
        rw [Loop.continues_iff, hstepMin] at first_goes
        exact first_goes.1
      case maxIterations =>
        have hbudget : (record :: records).length < (c.settings.maxIterations + 1).toNat := hlt
        rw [List.length_cons] at hbudget
        omega
      case tol =>
        intro hinfinite
        have habove : loop.tol < p.distance := (Loop.continues_iff.1 goes).2
        have htol' : loop.tol = Scalar.infinity := htol.trans hinfinite
        rw [htol'] at habove
        exact Exact.not_infinity_lt _ habove

/-- Unless the settings stall, no iteration begins with a step of zero or an undefined one. -/
theorem positiveSteps (moves : ¬ c.settings.Stalls)
    (created : Problem.create strategy c r = .ok problem) :
    (Backend.mk strategy tools).PositiveSteps calls problem := by
  intro loop distance records p hloop hdistance path hlt hgo
  have range : loop.InRange := inRange_of_loop? created hloop
  have hlaw : loop.law = problem.stepLaw := law_of_loop? hloop
  have hstepMin : loop.stepMin = problem.stepMin := stepMin_of_loop? hloop
  obtain ⟨F, jacobian, start, mask, rfl⟩ := Problem.exists_assemble created
  have hstart : (0 : Exact) < c.settings.step := c.inRange.step
  by_cases keeps : loop.stepMin ≠ 0 ∨ loop.law.backoff ≠ Scalar.infinity
  · -- One iteration after another keeps the step above zero.
    have hp : p.Positive loop := path.invariant
      (fun hp goes first => first.positive range keeps goes hp)
      ⟨Exact.zero_lt_one, fun _ => hstart⟩
    exact hp.2 hgo
  · -- The settings would stall if there were a second iteration, so this one is the first.
    have begins : (Backend.mk strategy tools).Begins calls _ loop p :=
      ⟨hloop, distance, records, hdistance, path, hlt, hgo⟩
    obtain ⟨first, rfl⟩ | repeats := begins.eq_start_or_repeats created
    · exact hstart
    · have hkeeps : loop.stepMin = 0 ∧ loop.law.backoff = Scalar.infinity := by
        simpa only [not_or, ne_eq, not_not] using keeps
      rw [hstepMin, hlaw] at hkeeps
      exact absurd ⟨repeats.step, hkeeps.1, hkeeps.2, repeats.maxIterations, repeats.tol⟩ moves

/-- Whatever a search that loops asks of the inner solver, it asks at the start of an iteration. -/
theorem implicitCall_of_mem_run {backend : Backend Exact}
    (positive : backend.PositiveSteps calls problem) (h : backend.loop? problem = some loop)
    {call : InnerCall Exact} {reply : InnerReply Exact}
    (asked : .inner call reply ∈ (backend.run calls problem).notices) :
    ∃ x step, 0 < step ∧ problem.implicitCall problem.innerPlan x step = .ok call := by
  obtain ⟨p, ⟨-, distance, records, hdistance, path, hlt, goes⟩, hcall⟩ :=
    exists_begins_of_asked h asked
  exact ⟨p.state, p.step, positive loop distance records p h hdistance path hlt goes, hcall⟩

/-- A search goes on from step to step without a division by zero. -/
structure Advances (backend : Backend Exact) (calls : Nat) (problem : Problem Exact) : Prop where
  positive : backend.PositiveSteps calls problem
  asked : ∀ call reply, .inner call reply ∈ (backend.run calls problem).notices →
    ∃ x step, 0 < step ∧ problem.implicitCall problem.innerPlan x step = .ok call
  residual : NeverDivides problem.residual →
    ∀ call reply, .inner call reply ∈ (backend.run calls problem).notices →
      NeverDivides call.residual
  jacobian : (∀ J, problem.jacobian = some J → NeverDivides J) →
    ∀ call reply, .inner call reply ∈ (backend.run calls problem).notices →
      ∀ J, call.jacobian = some J → NeverDivides J
  /-- A search in which nothing fails of itself returns. -/
  returns : problem.Returns backend.strategy → backend.RaisesNothing →
    (∀ d, residualDistance problem.residual problem.start = .ok d → Scalar.isNaN d = false) →
    ∃ o, (backend.run calls problem).result = .ok o

/-- Unless the settings stall, a search that loops advances. -/
theorem advances (moves : ¬ c.settings.Stalls)
    (created : Problem.create strategy c r = .ok problem)
    (h : (Backend.mk strategy tools).loop? problem = some loop) :
    (Backend.mk strategy tools).Advances calls problem := by
  have hpositive : (Backend.mk strategy tools).PositiveSteps calls problem :=
    positiveSteps moves created
  constructor
  case positive => exact hpositive
  case asked => exact fun call reply asked => implicitCall_of_mem_run hpositive h asked
  case residual =>
    intro hF call reply asked
    obtain ⟨x, step, hstep, hcall⟩ := implicitCall_of_mem_run hpositive h asked
    obtain ⟨G, J, hG, -, rfl⟩ := stepCall_eq_ok_iff.1 hcall
    exact hF.implicitResidual (Exact.beq_zero_eq_false hstep) hG
  case jacobian =>
    intro hjacobian call reply asked J hJ
    obtain ⟨x, step, hstep, hcall⟩ := implicitCall_of_mem_run hpositive h asked
    obtain ⟨G, J', -, hJ', rfl⟩ := stepCall_eq_ok_iff.1 hcall
    exact NeverDivides.stepJacobian hjacobian (Exact.beq_zero_eq_false hstep) hJ' hJ
  case returns =>
    intro hreturns hraises hdefined
    have wellFormed : problem.WellFormed := Problem.wellFormed_of_create created
    have hbackoff : (problem.backoff == 0) = false := by
      have hbackoff : 1 < loop.law.backoff := (inRange_of_loop? created h).backoff
      rw [law_of_loop? h] at hbackoff
      exact Exact.beq_zero_eq_false (Exact.zero_lt_of_lt Exact.zero_lt_one hbackoff)
    obtain ⟨distance, hdistance⟩ :=
      exists_residualDistance hreturns.residual wellFormed.nonempty wellFormed.start
    have hinitial : initialDistance problem = .ok distance :=
      initialDistance_eq_ok_iff.2 ⟨hdistance, hdefined distance hdistance⟩
    refine run_returns h wellFormed hreturns hraises hbackoff hinitial fun path hlt hgo => ?_
    exact Exact.beq_zero_eq_false (hpositive loop distance _ _ h hinitial path hlt hgo)

end Backend

end Equilibrium
