import Equilibrium.Proofs.Search.Retreat

/-!
Searches in which nothing succeeds.

If no answer of an inner solver is good enough, or if every integration runs off, each iteration is
rejected. The committed state is then the start for good, so every proposal is made from there, and
all that changes from one iteration to the next is the step, which goes through the quotients of the
first step by the powers of the backoff. The search ends without a steady state, either since its
budget is spent or with the first quotient below the floor of the step, whichever comes first. Below
a floor of zero there is no quotient, and below any other floor there is one.
-/

namespace Equilibrium

/-! ### Quotients by powers -/

/-- Below every floor above zero there is a first quotient by a power of a number above one. -/
theorem Exact.exists_isLeast_div_pow_lt {s b : ℝ} {floor : Exact} (hb : 1 < b)
    (hfloor : 0 < floor) : ∃ K, IsLeast {k : ℕ | finite (s / b ^ k) < floor} K := by
  suffices nonempty : {k : ℕ | finite (s / b ^ k) < floor}.Nonempty from
    ⟨_, isLeast_csInf nonempty⟩
  rcases zero_lt_iff.1 hfloor with rfl | ⟨z, hz, rfl⟩
  · exact ⟨0, rfl⟩
  · obtain ⟨n, hn⟩ : ∃ n, s / z < b ^ n := pow_unbounded_of_one_lt _ hb
    refine ⟨n, ?_⟩
    show s / b ^ n < z
    rwa [div_lt_comm₀ (pow_pos (zero_lt_one.trans hb) n) hz]

/-! ### Iterations -/

/-- Nothing has been committed since the start, and each iteration has divided the step. -/
structure Progress.Declined (p : Progress Exact) (x : Tensor Exact) (d : Exact) (s b : ℝ) :
    Prop where
  state : p.state = x
  distance : p.distance = d
  step : p.step = .finite (s / b ^ p.iteration)
  coef : p.coef = 1
  accepted : p.accepted = 0
  rejected : p.rejected = p.iteration

structure Record.Declined (record : Record Exact) (s b : ℝ) (k : Nat) : Prop where
  iteration : record.iteration = k + 1
  step : record.step = .finite (s / b ^ k)
  coef : record.coef = 1
  accepted : record.accepted = false

theorem Progress.declined_start (x : Tensor Exact) (d : Exact) (s b : ℝ) :
    (Progress.start x (.finite s) d).Declined x d s b :=
  ⟨rfl, rfl, by rw [Progress.start, pow_zero, div_one], rfl, rfl, rfl⟩

/-- From a distance above the tolerance the loop goes on as long as the step is not below the floor.
-/
theorem Progress.Declined.continues_iff {loop : Loop Exact} {p : Progress Exact} {x : Tensor Exact}
    {d : Exact} {s b : ℝ} (hp : p.Declined x d s b) (above : loop.tol < d) :
    loop.continues p = true ↔ loop.stepMin ≤ .finite (s / b ^ p.iteration) := by
  rw [Loop.continues_iff, hp.step, hp.distance, and_iff_left above]

/-- Whatever a loop proposes from a state, with steps that are finite and above zero, is measured
and discarded; its first step is `s` and its backoff `b`. -/
structure Loop.Futile (loop : Loop Exact) (x : Tensor Exact) (s b : ℝ) : Prop where
  step : 0 < s
  one_lt : 1 < b
  backoff : loop.law.backoff = .finite b
  discards : ∀ calls h, 0 < h → ∃ candidate distance,
    (loop.propose calls x (.finite h)).result = .ok candidate ∧
    candidateDistance loop.residual candidate.state = .ok distance ∧
    loop.commits candidate distance = false

namespace Loop.Futile

variable {loop : Loop Exact} {x : Tensor Exact} {d : Exact} {s b : ℝ} {calls budget : Nat}
  {p next last : Progress Exact} {record : Record Exact} {records : List (Record Exact)}

theorem zero_lt_step (futile : loop.Futile x s b) (k : Nat) : 0 < s / b ^ k :=
  div_pos futile.step (pow_pos (zero_lt_one.trans futile.one_lt) k)

/-- An iteration that begins where all others were rejected is completed. -/
theorem exists_step (futile : loop.Futile x s b) (hp : p.Declined x d s b) :
    ∃ next record, loop.Step calls p next record := by
  obtain ⟨candidate, distance, proposed, measured, -⟩ :=
    futile.discards (calls + p.iteration) _ (futile.zero_lt_step p.iteration)
  rw [← hp.state, ← hp.step] at proposed
  refine Step.exists_of_measured proposed measured ?_
  rw [futile.backoff]
  exact Exact.finite_beq_zero (zero_lt_one.trans futile.one_lt).ne'

/-- It is rejected, and the step is divided once more. -/
theorem declines (futile : loop.Futile x s b) (hp : p.Declined x d s b)
    (h : loop.Step calls p next record) :
    next.Declined x d s b ∧ record.Declined s b p.iteration := by
  obtain ⟨candidate', distance', proposed', measured', discards'⟩ :=
    futile.discards (calls + p.iteration) _ (futile.zero_lt_step p.iteration)
  rw [← hp.state, ← hp.step] at proposed'
  cases h with
  | accept candidate distance proposed measured commits =>
      -- There is but one proposal, and it is discarded.
      cases proposed.symm.trans proposed'
      cases measured.symm.trans measured'
      exact absurd commits (Bool.eq_false_iff.1 discards')
  | reject candidate distance proposed measured discards divides =>
      have hstep : p.step / loop.law.backoff = .finite (s / b ^ (p.iteration + 1)) := by
        have hb : b ≠ 0 := (zero_lt_one.trans futile.one_lt).ne'
        rw [hp.step, futile.backoff, Exact.finite_div_finite _ _ hb, div_div, ← pow_succ]
      exact ⟨⟨hp.state, hp.distance, hstep, rfl, hp.accepted, congrArg (· + 1) hp.rejected⟩,
        ⟨rfl, hp.step, rfl, rfl⟩⟩

/-! ### Paths from the start -/

section

variable (futile : loop.Futile x s b)
  (path : loop.Path calls (.start x (.finite s) d) records last)

include futile path

theorem declined_of_path : last.Declined x d s b :=
  path.invariant (I := fun p => p.Declined x d s b)
    (fun hp _ hstep => (futile.declines hp hstep).1) (Progress.declined_start x d s b)

/-- Each record is that of a rejected iteration, begun with a step at or above the floor. -/
theorem record_declined {k : Nat} (hk : k < records.length) :
    records[k].Declined s b k ∧ loop.stepMin ≤ .finite (s / b ^ k) := by
  obtain ⟨q, next, before, goes, hstep, -⟩ := path.cut hk
  have hq : q.Declined x d s b := futile.declined_of_path before
  have hiteration : q.iteration = k := (before.iteration_of_take hk.le).trans (Nat.zero_add k)
  have hrecord : records[k].Declined s b q.iteration := (futile.declines hq hstep).2
  have hfloor : loop.stepMin ≤ .finite (s / b ^ q.iteration) :=
    hq.step ▸ (continues_iff.1 goes).1
  exact ⟨hiteration ▸ hrecord, hiteration ▸ hfloor⟩

/-- No iteration begins with a step below the floor. -/
theorem length_le {k : Nat} (hk : .finite (s / b ^ k) < loop.stepMin) : records.length ≤ k := by
  rcases Nat.lt_or_ge k records.length with hlt | hle
  · exact absurd (futile.record_declined path hlt).2 (Scalar.Ordered.not_le_of_lt hk)
  · exact hle

/-! ### Exits -/

variable (above : loop.tol < d)

include above

/-- A loop that stops does so with a step below the floor. -/
theorem lt_stepMin (floor : Scalar.isNaN loop.stepMin = false)
    (stops : loop.continues last = false) : .finite (s / b ^ records.length) < loop.stepMin := by
  have hlast : last.Declined x d s b := futile.declined_of_path path
  have hiteration : last.iteration = records.length := path.iteration_eq.trans (Nat.zero_add _)
  have hnot : ¬ loop.stepMin ≤ .finite (s / b ^ records.length) := by
    rw [← hiteration, ← hlast.continues_iff above, stops]
    exact Bool.false_ne_true
  by_contra hge
  exact hnot (Scalar.Ordered.le_of_not_lt rfl floor hge)

/-- With a floor of zero the budget is spent. -/
theorem length_eq_budget (hexit : records.length = budget ∨ loop.continues last = false)
    (floor : loop.stepMin = 0) : records.length = budget := by
  refine hexit.resolve_right fun stops => ?_
  have hlt : .finite (s / b ^ records.length) < loop.stepMin :=
    futile.lt_stepMin path above (floor ▸ rfl) stops
  rw [floor] at hlt
  exact absurd hlt (futile.zero_lt_step records.length).not_gt

/-- With a floor above zero the loop ends with the first step below it, if there is budget enough.
-/
theorem length_eq_min (hle : records.length ≤ budget)
    (hexit : records.length = budget ∨ loop.continues last = false) {K : Nat}
    (least : IsLeast {k : ℕ | .finite (s / b ^ k) < loop.stepMin} K) :
    records.length = min budget K := by
  have hbelow : records.length ≤ K := futile.length_le path least.1
  rcases hexit with hspent | stops
  · rw [← hspent, Nat.min_eq_left hbelow]
  · have hlt : .finite (s / b ^ records.length) < loop.stepMin :=
      futile.lt_stepMin path above (Scalar.Ordered.isNaN_of_lt least.1) stops
    have habove : K ≤ records.length := least.2 hlt
    omega

end

end Loop.Futile

/-! ### Collaborators that fail -/

/-- Every answer to an implicit step from the start is a state that is measured, but the inner
distance is undefined or above the inner tolerance, or the distance of the state is not finite. -/
def InnerSolver.FailsAt (solver : InnerSolver Exact) (problem : Problem Exact) : Prop :=
  ∀ calls h call, 0 < h →
    problem.implicitCall problem.innerPlan problem.start (.finite h) = .ok call →
    ∃ answer distance, (solver.solve calls call).outcome = .ok answer ∧
      answer.state.shape = problem.start.shape ∧
      candidateDistance problem.residual answer.state = .ok distance ∧
      (Scalar.isNaN answer.distance = true ∨ problem.innerTol < answer.distance ∨
        Scalar.isFinite distance = false)

def Integrator.FailsAt (integrator : Integrator Exact) (problem : Problem Exact) : Prop :=
  ∀ calls h, 0 < h → ∃ trajectory y distance,
    (integrator.integrate calls (problem.flowCall problem.start (.finite h))).outcome =
      .ok trajectory ∧
    trajectory.states.getLast? = some y ∧ candidateDistance problem.residual y = .ok distance ∧
    Scalar.isFinite distance = false

structure Backend.Fails (backend : Backend Exact) (problem : Problem Exact) : Prop where
  solver : backend.strategy = .pseudoTransient → backend.tools.solver.FailsAt problem
  integrator : backend.strategy = .horizons →
    (backend.tools.integrator problem.flow).FailsAt problem

variable {problem : Problem Exact} {calls : Nat} {h : ℝ}

theorem InnerSolver.FailsAt.discards {solver : InnerSolver Exact} (fails : solver.FailsAt problem)
    (wellFormed : problem.WellFormed) (calls : Nat) (hh : 0 < h) :
    ∃ candidate distance,
      (problem.propose solver problem.innerPlan calls problem.start (.finite h)).result =
        .ok candidate ∧
      candidateDistance problem.residual candidate.state = .ok distance ∧
      (problem.pseudoTransientLoop solver).commits candidate distance = false := by
  obtain ⟨call, hcall⟩ :
      ∃ call, problem.implicitCall problem.innerPlan problem.start (.finite h) = .ok call :=
    problem.exists_implicitCall wellFormed rfl rfl
  obtain ⟨answer, distance, hanswer, hshape, measured, refused⟩ := fails calls h call hh hcall
  refine ⟨⟨answer.state, answer.distance⟩, distance, ?_, measured, ?_⟩
  · exact Problem.propose_result_eq_ok_iff.2 ⟨call, answer, hcall, hanswer, hshape, rfl⟩
  · show (decide (answer.distance ≤ problem.innerTol) && Scalar.isFinite distance) = false
    rcases refused with undefined | above | infinite
    · rw [decide_eq_false (Scalar.Lawful.not_le_of_isNaN _ undefined), Bool.false_and]
    · rw [decide_eq_false (Scalar.Ordered.not_le_of_lt above), Bool.false_and]
    · rw [infinite, Bool.and_false]

theorem Integrator.FailsAt.discards {integrator : Integrator Exact}
    (fails : integrator.FailsAt problem) (calls : Nat) (hh : 0 < h) :
    ∃ candidate distance,
      (problem.proposeByFlow integrator calls problem.start (.finite h)).result = .ok candidate ∧
      candidateDistance problem.residual candidate.state = .ok distance ∧
      (problem.horizonLoop integrator).commits candidate distance = false := by
  obtain ⟨trajectory, y, distance, htrajectory, hy, measured, infinite⟩ := fails calls h hh
  refine ⟨⟨y, Scalar.undefined⟩, distance, ?_, measured, ?_⟩
  · exact Problem.proposeByFlow_result_eq_ok_iff.2 ⟨trajectory, htrajectory, hy, rfl⟩
  · rw [Loop.commits, infinite, Bool.and_false]

/-! ### Hopeless collaborators -/

theorem InnerSolver.unsatisfied_failsAt {c : Config Exact} {y : ℝ} (hy : 0 ≤ y)
    (wellFormed : (Problem.identity c (.finite y)).WellFormed) :
    (unsatisfied : InnerSolver Exact).FailsAt (.identity c (.finite y)) := by
  intro calls h call hh hcall
  obtain ⟨G, J, hG, -, rfl⟩ := stepCall_eq_ok_iff.1 hcall
  obtain ⟨G', hG', htotal⟩ :=
    (Problem.identity_returns c (.finite y) .pseudoTransient).residual.implicitResidual
      (Exact.finite_beq_zero hh.ne') wellFormed.start wellFormed.marking
  cases hG.symm.trans hG'
  obtain ⟨value, hvalue, -⟩ := htotal _ wellFormed.start
  exact ⟨⟨.vector [.finite y], Scalar.undefined⟩, .finite y,
    unsatisfied_eq_ok_iff.2 ⟨⟨value, hvalue⟩, rfl⟩, rfl, Exact.candidateDistance_identity hy,
    .inl rfl⟩

theorem Integrator.divergent_failsAt {c : Config Exact} {y : ℝ} :
    (divergent : Integrator Exact).FailsAt (.identity c (.finite y)) := by
  intro calls h hh
  exact ⟨_, _, Scalar.infinity, rfl, rfl,
    candidateDistance_eq_ok_iff.2 ⟨_, Exact.residualDistance_infinity, rfl⟩, rfl⟩

/-- The hopeless collaborators fail at the identity. -/
theorem Backend.fails_hopeless {strategy : Strategy} {c : Config Exact} {y : ℝ} (hy : 0 ≤ y)
    (created : Problem.create strategy c (.identity (.finite y)) = .ok (.identity c (.finite y))) :
    (Backend.mk strategy .hopeless).Fails (.identity c (.finite y)) where
  solver _ := InnerSolver.unsatisfied_failsAt hy (Problem.wellFormed_of_create created)
  integrator _ := Integrator.divergent_failsAt

/-! ### Searches -/

/-- The result of a search in which every iteration is rejected, from a start at the distance `d`
with a first step `s` and a backoff `b`. -/
structure Result.Declined (result : Result Exact) (problem : Problem Exact) (d : Exact) (s b : ℝ) :
    Prop where
  state : result.state = problem.start
  distance : result.distance = d
  converged : result.converged = false
  accepted : result.accepted = 0
  rejected : result.rejected = result.iterations
  history : result.iterations = result.history.length
  records : ∀ k (hk : k < result.history.length), result.history[k].Declined s b k
  finalStep : result.finalStep = .finite (s / b ^ result.iterations)
  spent : problem.stepMin = 0 → result.iterations = problem.maxIterations + 1
  /-- A floor above zero ends the search with the first step below it, if the budget does not. -/
  floor : 0 < problem.stepMin → ∃ K : ℕ,
    IsLeast {k : ℕ | .finite (s / b ^ k) < problem.stepMin} K ∧
    result.iterations = min (problem.maxIterations + 1) K

namespace Backend

variable {strategy : Strategy} {c : Config Exact} {r : Request Exact} {backend : Backend Exact}
  {loop : Loop Exact} {d : Exact} {s b : ℝ}

/-- The loop of a failing backend is futile from the start. -/
theorem Fails.futile (fails : backend.Fails problem)
    (created : Problem.create strategy c r = .ok problem) (hs : problem.step = .finite s)
    (hb : problem.backoff = .finite b) (hloop : backend.loop? problem = some loop) :
    loop.Futile problem.start s b := by
  have range : problem.settings.InRange := Problem.inRange_of_create created
  constructor
  case step =>
    have hstep : 0 < problem.step := range.step
    rwa [hs] at hstep
  case one_lt =>
    have hbackoff : 1 < problem.backoff := range.backoff
    rwa [hb] at hbackoff
  case backoff => rw [law_of_loop? hloop, ← hb, Problem.stepLaw]
  case discards =>
    intro calls h hh
    rcases loop?_eq_some_iff.1 hloop with ⟨hstrategy, -, rfl⟩ | ⟨hstrategy, rfl⟩
    · exact (fails.solver hstrategy).discards (Problem.wellFormed_of_create created) calls hh
    · exact (fails.integrator hstrategy).discards calls hh

/-- The result of such a search is read off the end of its path. -/
theorem declined_of_path (range : problem.settings.InRange) (hs : problem.step = .finite s)
    (hloop : backend.loop? problem = some loop) (futile : loop.Futile problem.start s b)
    (above : problem.tol < d) {last : Progress Exact} {records : List (Record Exact)}
    (path : loop.Path calls (.start problem.start problem.step d) records last)
    (hle : records.length ≤ iterationBudget problem.maxIterations)
    (hexit : records.length = iterationBudget problem.maxIterations ∨
      loop.continues last = false) :
    (Result.ofOutcome problem (last.outcome problem.tol records)).Declined problem d s b := by
  rw [hs] at path
  rw [← tol_of_loop? hloop] at above
  have hlast : last.Declined problem.start d s b := futile.declined_of_path path
  have hiteration : last.iteration = records.length := path.iteration_eq.trans (Nat.zero_add _)
  have hmax : 0 ≤ problem.maxIterations := range.maxIterations
  have hbudget : (iterationBudget problem.maxIterations : Int) = problem.maxIterations + 1 :=
    Int.toNat_of_nonneg (by omega)
  constructor
  case state => exact hlast.state
  case distance => exact hlast.distance
  case converged =>
    show decide (last.distance ≤ problem.tol) = false
    rw [hlast.distance, ← tol_of_loop? hloop]
    exact decide_eq_false (Scalar.Ordered.not_le_of_lt above)
  case accepted => exact congrArg Int.ofNat hlast.accepted
  case rejected => exact congrArg Int.ofNat hlast.rejected
  case history => exact congrArg Int.ofNat hiteration
  case records => exact fun k hk => (futile.record_declined path hk).1
  case finalStep =>
    show last.step = .finite (s / b ^ (last.iteration : Int))
    rw [hlast.step, zpow_natCast]
  case spent =>
    intro floor
    rw [← stepMin_of_loop? hloop] at floor
    have hlength : records.length = iterationBudget problem.maxIterations :=
      futile.length_eq_budget path above hexit floor
    show (last.iteration : Int) = problem.maxIterations + 1
    omega
  case floor =>
    intro floor
    obtain ⟨K, least⟩ :
        ∃ K, IsLeast {k : ℕ | Exact.finite (s / b ^ k) < problem.stepMin} K :=
      Exact.exists_isLeast_div_pow_lt futile.one_lt floor
    refine ⟨K, least, ?_⟩
    rw [← stepMin_of_loop? hloop] at least
    have hlength : records.length = min (iterationBudget problem.maxIterations) K :=
      futile.length_eq_min path above hle hexit least
    show (last.iteration : Int) = min (problem.maxIterations + 1) K
    omega

/-- A search whose collaborator fails every time returns its start, after as many rejections as its
budget and the floor of its step allow. -/
theorem run_declined (created : Problem.create strategy c r = .ok problem)
    (loops : backend.strategy ≠ .relaxation) (fails : backend.Fails problem)
    (hs : problem.step = .finite s) (hb : problem.backoff = .finite b)
    (hd : residualDistance problem.residual problem.start = .ok d) (above : problem.tol < d)
    (calls : Nat) :
    ∃ o, (backend.run calls problem).result = .ok o ∧
      (Result.ofOutcome problem o).Declined problem d s b := by
  obtain ⟨loop, hloop⟩ := exists_loop? backend problem loops (by rw [hs]; rfl)
  have futile : loop.Futile problem.start s b := fails.futile created hs hb hloop
  have hinitial : initialDistance problem = .ok d :=
    initialDistance_eq_ok_iff.2 ⟨hd, Scalar.Ordered.isNaN_of_lt above⟩
  obtain ⟨last, records, hrun⟩ : ∃ last records,
      (loop.run calls (iterationBudget problem.maxIterations)
        (.start problem.start problem.step d)).result = .ok (last, records) := by
    refine Loop.run_returns fun path _ _ => ?_
    rw [hs] at path
    exact futile.exists_step (futile.declined_of_path path)
  obtain ⟨path, hle, hexit⟩ := Loop.run_result_eq_ok_iff.1 hrun
  exact ⟨last.outcome problem.tol records,
    (run_result_eq_ok_iff_of_loop? hloop).2 ⟨d, last, records, hinitial, path, hle, hexit, rfl⟩,
    declined_of_path (Problem.inRange_of_create created) hs hloop futile above path hle hexit⟩

end Backend

/-- With the standard configuration a first step of one comes below its floor by thirteen divisions.
-/
theorem Config.isLeast_exact :
    IsLeast {k : ℕ | Exact.finite (1 / 10.0 ^ k) < exact.settings.stepMin} 13 := by
  constructor
  · show (1 / 10.0 ^ 13 : ℝ) < 1e-12
    norm_num
  · intro k hk
    have hfloor : (1 / 10.0 ^ k : ℝ) < 1e-12 := hk
    have hpower : (1e-12 : ℝ) = 1 / 10.0 ^ 12 := by norm_num
    rw [hpower, one_div_lt_one_div (by positivity) (by positivity)] at hfloor
    exact (pow_lt_pow_iff_right₀ (by norm_num)).1 hfloor

theorem Result.Declined.iterations_exact {result : Result Exact} {y : Exact}
    (declined : result.Declined (.identity Config.exact y) y 1 10.0) : result.iterations = 13 := by
  have floor : 0 < Config.exact.settings.stepMin := (by norm_num : (0 : ℝ) < 1e-12)
  obtain ⟨K, least, hiterations⟩ := declined.floor floor
  rw [hiterations, least.unique Config.isLeast_exact]
  rfl

/-- With hopeless collaborators both searches give up after as many iterations. -/
theorem Config.exact_declines :
    Problem.create .pseudoTransient exact (.identity (.finite 1)) =
        .ok (.identity exact (.finite 1)) ∧
      (Backend.mk .pseudoTransient .hopeless).Fails (.identity exact (.finite 1)) ∧
      (∃ o, ((Backend.mk .pseudoTransient .hopeless).run 0 (.identity exact (.finite 1))).result =
          .ok o ∧
        let result := Result.ofOutcome (.identity exact (.finite 1)) o
        result.Declined (.identity exact (.finite 1)) (.finite 1) 1 10.0 ∧
          result.iterations = 13) ∧
      ∃ o, ((Backend.mk .horizons .hopeless).run 0 (.identity exact (.finite 1))).result = .ok o ∧
        let result := Result.ofOutcome (.identity exact (.finite 1)) o
        result.Declined (.identity exact (.finite 1)) (.finite 1) 1 10.0 ∧
          result.iterations = 13 := by
  have created (strategy : Strategy) :=
    Problem.create_identity (c := exact) strategy rfl (.finite 1)
  have fails (strategy : Strategy) := Backend.fails_hopeless zero_le_one (created strategy)
  have hd : residualDistance .ok (.vector [.finite 1]) = .ok (Exact.finite 1) :=
    Exact.residualDistance_identity zero_le_one
  have above : exact.settings.tol < .finite 1 := (by norm_num : (1e-9 : ℝ) < 1)
  obtain ⟨o, returns, declined⟩ := Backend.run_declined (created .pseudoTransient) (by decide)
    (fails .pseudoTransient) rfl rfl hd above 0
  obtain ⟨o', returns', declined'⟩ := Backend.run_declined (created .horizons) (by decide)
    (fails .horizons) rfl rfl hd above 0
  exact ⟨created _, fails _, ⟨o, returns, declined, declined.iterations_exact⟩, o', returns',
    declined', declined'.iterations_exact⟩

end Equilibrium
