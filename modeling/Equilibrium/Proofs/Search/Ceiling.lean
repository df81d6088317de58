import Equilibrium.Proofs.Search.Retreat

/-!
The ceiling of the step.

Growth is cut at the ceiling and a rejection makes the step smaller, so a step that is not above the
ceiling stays so. That leaves two ways past it. Nothing compares the first step with the ceiling,
and where it is larger, even a search without an iteration reports it as its last one. And a last
step may be undefined, which is not at or below anything: an infinite backoff turns an infinite step
into an undefined one, and where it has left a step of zero, an infinite distance does.
-/

namespace Equilibrium

/-! ### One iteration -/

namespace Loop

variable {loop : Loop Exact} {calls : Nat} {p next last : Progress Exact} {record : Record Exact}
  {records : List (Record Exact)}

theorem Step.not_ceiling_lt (range : loop.InRange) (hp : ¬ loop.law.ceiling < p.step)
    (h : loop.Step calls p next record) : ¬ loop.law.ceiling < next.step := by
  cases h with
  | accept candidate distance proposed measured commits =>
      exact StepLaw.not_ceiling_lt_grow _ _ _ _ _
  | reject candidate distance proposed measured discards divides =>
      exact Exact.not_lt_div range.ceiling range.backoff hp

theorem Step.zero_lt_coef (range : loop.InRange) (hp : 0 < p.coef)
    (h : loop.Step calls p next record) : 0 < next.coef := by
  cases h with
  | accept candidate distance proposed measured commits =>
      exact StepLaw.zero_lt_compound range.scale hp
  | reject candidate distance proposed measured discards divides => exact Exact.zero_lt_one

/-- A step above zero leaves a step that is defined, unless an infinite one is divided by an
infinite backoff. -/
theorem Step.isNaN_step (range : loop.InRange) (goes : loop.continues p = true)
    (hstep : 0 < p.step) (hcoef : 0 < p.coef)
    (tame : loop.law.backoff = Scalar.infinity → p.step ≠ Scalar.infinity)
    (h : loop.Step calls p next record) : Scalar.isNaN next.step = false := by
  cases h with
  | accept candidate distance proposed measured commits =>
      have hdistance : 0 < p.distance := Exact.zero_lt_of_lt range.tol (continues_iff.1 goes).2
      have hfinite : Scalar.isFinite distance = true := (Bool.and_eq_true_iff.1 commits).2
      have hnonneg : 0 ≤ distance := (candidateDistance_nonneg measured).2
      have hcompound : 0 < loop.law.compound p.coef p.distance distance :=
        StepLaw.zero_lt_compound range.scale hcoef
      exact Scalar.Ordered.isNaN_of_lt
        (StepLaw.zero_lt_grow range.ceiling hstep hcompound hdistance hnonneg hfinite)
  | reject candidate distance proposed measured discards divides =>
      by_cases hbackoff : loop.law.backoff = Scalar.infinity
      · obtain ⟨x, -, hx⟩ := (Exact.zero_lt_iff.1 hstep).resolve_left (tame hbackoff)
        change Scalar.isNaN (p.step / loop.law.backoff) = false
        rw [hbackoff, hx]
        rfl
      · exact Scalar.Ordered.isNaN_of_lt
          (StepLaw.zero_lt_div_backoff range.backoff hstep hbackoff)

theorem Path.zero_lt_coef (range : loop.InRange) (hp : 0 < p.coef)
    (path : loop.Path calls p records last) : 0 < last.coef :=
  path.invariant (fun hq _ hstep => hstep.zero_lt_coef range hq) hp

theorem Path.not_ceiling_lt (range : loop.InRange) (hp : ¬ loop.law.ceiling < p.step)
    (path : loop.Path calls p records last) : ¬ loop.law.ceiling < last.step :=
  path.invariant (fun hq _ hstep => hstep.not_ceiling_lt range hq) hp

end Loop

/-! ### Searches -/

/-- The settings under which a search may end with an undefined step. -/
structure Settings.Unravels (s : Settings Exact) : Prop extends s.Repeats where
  /-- A rejection leaves nothing of a finite step and nobody knows what of an infinite one. -/
  backoff : s.backoff = Scalar.infinity
  strays : s.stepMax = Scalar.infinity ∨ s.stepMin = 0

theorem Settings.Stalls.unravels {c : Config Exact} (stalls : c.settings.Stalls) :
    c.settings.Unravels :=
  ⟨stalls.repeats, stalls.backoff, .inr stalls.stepMin⟩

namespace Backend

/-- No step is above the ceiling: none that an iteration begins with, whatever becomes of the
search, and none that a result reports. -/
structure UnderCeiling (backend : Backend Exact) (calls : Nat) (problem : Problem Exact) :
    Prop where
  used : ∀ loop p, backend.Begins calls problem loop p → p.step ≤ problem.stepMax
  reported : ∀ loop o, backend.loop? problem = some loop →
    (backend.run calls problem).result = .ok o →
    (∀ record ∈ (Result.ofOutcome problem o).history, record.step ≤ problem.stepMax) ∧
      (Result.ofOutcome problem o).finalStep ≤ problem.stepMax

variable {c : Config Exact} {strategy : Strategy} {r : Request Exact} {problem : Problem Exact}
  {tools : Toolbox Exact} {calls : Nat} {loop : Loop Exact} {p last : Progress Exact}
  {records : List (Record Exact)}

/-- A search that starts at or below the ceiling stays there, as long as its steps are defined. -/
theorem step_le_stepMax (created : Problem.create strategy c r = .ok problem)
    (first : c.settings.step ≤ c.settings.stepMax)
    (h : (Backend.mk strategy tools).loop? problem = some loop) {distance : Exact}
    (path : loop.Path calls (.start problem.start problem.step distance) records last)
    (defined : Scalar.isNaN last.step = false) : last.step ≤ problem.stepMax := by
  have range : loop.InRange := inRange_of_loop? created h
  have hceiling : loop.law.ceiling = problem.stepMax := congrArg (·.ceiling) (law_of_loop? h)
  obtain ⟨F, jacobian, start, mask, rfl⟩ := Problem.exists_assemble created
  have hstart : ¬ loop.law.ceiling < c.settings.step := by
    rw [hceiling]
    exact fun hlt => Scalar.Ordered.not_le_of_lt hlt first
  have hdefined : Scalar.isNaN loop.law.ceiling = false :=
    Scalar.Ordered.isNaN_of_lt range.ceiling
  rw [← hceiling]
  exact Scalar.Ordered.le_of_not_lt hdefined defined (path.not_ceiling_lt range hstart)

/-- Unless the settings unravel, the step that a begun iteration leaves is defined. -/
theorem Begins.isNaN_step (tame : ¬ c.settings.Unravels)
    (created : Problem.create strategy c r = .ok problem)
    (begins : (Backend.mk strategy tools).Begins calls problem loop p) {record : Record Exact}
    (hstep : loop.Step calls p last record) : Scalar.isNaN last.step = false := by
  have range : loop.InRange := inRange_of_loop? created begins.1
  have hbackoff : loop.law.backoff = c.settings.backoff := by
    rw [law_of_loop? begins.1]
    obtain ⟨F, jacobian, start, mask, rfl⟩ := Problem.exists_assemble created
    rfl
  have hpositive : 0 < p.step := begins.zero_lt_step (fun stalls => tame stalls.unravels) created
  have hfinite : loop.law.backoff = Scalar.infinity → p.step ≠ Scalar.infinity := by
    intro hinfinite
    rw [hbackoff] at hinfinite
    exact begins.step_ne_infinity created fun repeats hmax => tame ⟨repeats, hinfinite, .inl hmax⟩
  obtain ⟨-, distance, records, -, path, -, goes⟩ := begins
  have hcoef : 0 < p.coef := path.zero_lt_coef range Exact.zero_lt_one
  exact hstep.isNaN_step range goes hpositive hcoef hfinite

theorem underCeiling (first : c.settings.step ≤ c.settings.stepMax)
    (tame : ¬ c.settings.Unravels) (created : Problem.create strategy c r = .ok problem) :
    (Backend.mk strategy tools).UnderCeiling calls problem := by
  have hused : ∀ loop p, (Backend.mk strategy tools).Begins calls problem loop p →
      p.step ≤ problem.stepMax := by
    intro loop p begins
    have hpositive : 0 < p.step := begins.zero_lt_step (fun stalls => tame stalls.unravels) created
    obtain ⟨hloop, distance, records, -, path, -, -⟩ := begins
    exact step_le_stepMax created first hloop path (Scalar.Ordered.isNaN_of_lt hpositive)
  constructor
  case used => exact hused
  case reported =>
    intro loop o hloop returns
    obtain ⟨distance, last, records, hdistance, path, hle, -, rfl⟩ :=
      (run_result_eq_ok_iff_of_loop? hloop).1 returns
    constructor
    · intro record hrecord
      obtain ⟨k, hk, rfl⟩ := List.getElem_of_mem hrecord
      obtain ⟨q, next, before, goes, hstep, -⟩ := path.cut hk
      obtain ⟨candidate, d, -, -, hsize, -⟩ := hstep.settled
      have hlt : (records.take k).length < iterationBudget problem.maxIterations := by
        have hlength : (records.take k).length ≤ k := List.length_take_le k records
        have hk' : k < records.length := hk
        omega
      have hq : q.step ≤ problem.stepMax :=
        hused loop q ⟨hloop, distance, _, hdistance, before, hlt, goes⟩
      exact hsize ▸ hq
    · refine step_le_stepMax created first hloop path ?_
      obtain rfl | ⟨earlier, q, record, before, hlt, goes, hstep⟩ := path.eq_or_step
      · have hstep : Scalar.isNaN c.settings.step = false :=
          Scalar.Ordered.isNaN_of_lt c.inRange.step
        obtain ⟨F, jacobian, start, mask, rfl⟩ := Problem.exists_assemble created
        exact hstep
      · have begins : (Backend.mk strategy tools).Begins calls problem loop q :=
          ⟨hloop, distance, earlier, hdistance, before, Nat.lt_of_lt_of_le hlt hle, goes⟩
        exact begins.isNaN_step tame created hstep

end Backend

/-! ### Ways past the ceiling -/

section

variable {c : Config Exact} (strategy : Strategy) (loops : strategy ≠ .relaxation)
  (finite : Scalar.isInf c.settings.step = false)

include loops finite

/-- There is a search that returns its first step. -/
theorem Config.exists_first_step :
    ∃ problem loop o, Problem.create strategy c (.identity (.finite 0)) = .ok problem ∧
      (Backend.mk strategy .hopeless).loop? problem = some loop ∧
      ((Backend.mk strategy .hopeless).run 0 problem).result = .ok o ∧
      problem.stepMax = c.settings.stepMax ∧
      (Result.ofOutcome problem o).finalStep = c.settings.step := by
  have hfinite : Scalar.isFinite c.settings.step = true :=
    Exact.isFinite_of_zero_lt c.inRange.step finite
  obtain ⟨loop, h⟩ := Backend.exists_loop? ⟨strategy, .hopeless⟩
    (.identity c (.finite 0)) loops finite
  have hinitial : initialDistance (.identity c (.finite 0)) = .ok (.finite 0) :=
    Exact.initialDistance_identity le_rfl c
  have hstops : loop.continues (.start (.vector [.finite 0]) c.settings.step (.finite 0)) =
      false := by
    rw [Loop.not_continues_iff, Backend.tol_of_loop? h]
    rintro ⟨-, hbelow⟩
    exact Scalar.Ordered.not_le_of_lt hbelow (Exact.le_of_lt c.inRange.tol)
  exact ⟨_, loop, _, Problem.create_identity strategy hfinite _, h,
    (Backend.run_result_eq_ok_iff_of_loop? h).2
      ⟨_, _, [], hinitial, .stop _, Nat.zero_le _, .inr hstops, rfl⟩, rfl, rfl⟩

end

theorem Loop.not_continues_of_undefined {loop : Loop Exact} {p : Progress Exact}
    (h : p.step = .undefined) : loop.continues p = false := by
  rw [not_continues_iff, h]
  exact fun hgo => Exact.not_le_undefined _ hgo.1

/-- There is a search that returns an undefined step. -/
theorem Settings.Unravels.exists_undefined {c : Config Exact} (unravels : c.settings.Unravels)
    (strategy : Strategy) (loops : strategy ≠ .relaxation) :
    ∃ states loop o, (Backend.mk strategy (.blind states)).loop? (.singular c) = some loop ∧
      ((Backend.mk strategy (.blind states)).run 0 (.singular c)).result = .ok o ∧
      (Result.ofOutcome (.singular c) o).finalStep = .undefined := by
  have hfinite : Scalar.isFinite c.settings.step = true := unravels.isFinite_step
  obtain ⟨d, habove⟩ := unravels.exists_tol_lt
  have hd : (0 : Exact) < .finite d := Exact.zero_lt_of_lt c.inRange.tol habove
  obtain ceiling | floor := unravels.strays
  · -- The step becomes infinite, and then it is divided.
    obtain ⟨loop, h⟩ := Backend.exists_loop? ⟨strategy, .blind (firstThen
      (.vector [.finite d⁻¹]) (.vector [0]))⟩ (.singular c) loops unravels.step
    obtain ⟨p, begins, hstep, hiteration, hstate⟩ :=
      unravels.reaches_ceiling h (ceiling ▸ unravels.stepMin_le_infinity) habove rfl
    obtain ⟨record, -, hnext⟩ :=
      Backend.rejects_singular h hfinite 0 p hstate (by rw [hiteration]; rfl)
    have hundefined : p.step / c.settings.backoff = .undefined := by
      rw [hstep, ceiling, unravels.backoff]
      rfl
    obtain ⟨history, returns, -⟩ :=
      begins.returns hnext (Loop.not_continues_of_undefined hundefined)
    exact ⟨_, loop, _, h, returns, hundefined⟩
  · -- The step becomes zero, and then it is to grow.
    obtain ⟨loop, h⟩ := Backend.exists_loop? ⟨strategy, .blind (firstThen
      (.vector [0]) (.vector [.finite d⁻¹]))⟩ (.singular c) loops unravels.step
    obtain ⟨p, begins, hstep, hdistance, hiteration, hstate⟩ :=
      unravels.sinks h floor unravels.backoff rfl
    obtain ⟨record, hnext⟩ :=
      Backend.commits_singular h hfinite 0 p hstate hd (by rw [hiteration]; rfl)
    have hundefined :
        (loop.law.accept p.begun (.vector [.finite d⁻¹]) (.finite d)).step = .undefined := by
      change loop.law.grow p.step (loop.law.compound p.coef p.distance (.finite d)) p.distance
        (.finite d) = .undefined
      rw [hstep, hdistance]
      exact StepLaw.grow_zero_infinity hd
    obtain ⟨history, returns, -⟩ :=
      begins.returns hnext (Loop.not_continues_of_undefined hundefined)
    exact ⟨_, loop, _, h, returns, hundefined⟩

/-! ### The exact condition -/

/-- No step of a search is above the ceiling exactly if the first one is not and the settings do not
unravel. -/
theorem Config.underCeiling_iff {c : Config Exact} {strategy : Strategy}
    (loops : strategy ≠ .relaxation) (finite : Scalar.isInf c.settings.step = false) :
    (∀ r problem tools calls, Problem.create strategy c r = .ok problem →
      (Backend.mk strategy tools).UnderCeiling calls problem) ↔
    c.settings.step ≤ c.settings.stepMax ∧ ¬ c.settings.Unravels := by
  constructor
  · intro under
    constructor
    · obtain ⟨problem, loop, o, created, h, returns, hmax, hfinal⟩ :=
        exists_first_step strategy loops finite
      rw [← hmax, ← hfinal]
      exact ((under _ problem _ 0 created).reported loop o h returns).2
    · intro unravels
      obtain ⟨states, loop, o, h, returns, hfinal⟩ := unravels.exists_undefined strategy loops
      have created := Problem.create_singular strategy c unravels.isFinite_step
      have hle := ((under _ _ _ 0 created).reported loop o h returns).2
      rw [hfinal] at hle
      exact Exact.not_undefined_le _ hle
  · rintro ⟨first, tame⟩ r problem tools calls created
    exact Backend.underCeiling first tame created

/-- With a ceiling a search comes to a step as large as that and to none above it. -/
theorem Config.capped_underCeiling :
    Strategy.pseudoTransient ≠ .relaxation ∧ Scalar.isInf capped.settings.step = false ∧
      Problem.create .pseudoTransient capped .singular = .ok (.singular capped) ∧
      let backend := Backend.mk .pseudoTransient
        (.blind (firstThen (.vector [.finite 2⁻¹]) (.vector [0])))
      backend.UnderCeiling 0 (.singular capped) ∧
      ∃ loop p, backend.Begins 0 (.singular capped) loop p ∧ p.step = .finite 10 := by
  have loops : Strategy.pseudoTransient ≠ .relaxation := by decide
  have created := Problem.create_singular .pseudoTransient capped rfl
  have first : capped.settings.step ≤ capped.settings.stepMax := (by norm_num : (1 : ℝ) ≤ 10)
  have tame : ¬ capped.settings.Unravels := fun unravels => Exact.noConfusion unravels.backoff
  have under := (underCeiling_iff (c := capped) loops rfl).2 ⟨first, tame⟩
  obtain ⟨loop, h⟩ := Backend.exists_loop? ⟨.pseudoTransient,
    .blind (firstThen (.vector [.finite 2⁻¹]) (.vector [0]))⟩ (.singular capped) loops rfl
  obtain ⟨p, begins, hceiling, -, -⟩ := capped_repeats.reaches_ceiling h
    (by norm_num : (1e-12 : ℝ) ≤ 10) (by norm_num : (1e-9 : ℝ) < 2) rfl
  exact ⟨loops, rfl, created, under _ _ _ 0 created, loop, p, begins, hceiling⟩

noncomputable def Config.overreaching : Config Exact where
  settings := { Settings.standard with stepMax := .finite 0.5 }
  valid := Settings.fault?_eq_none_iff.2
    ⟨{ Settings.standard_inRange with stepMax := (by norm_num : (0 : ℝ) < 0.5) }, rfl⟩

/-- A ceiling below the first step is valid, and a search uses that step all the same. -/
theorem Config.overreaching_exceeds :
    Problem.create .pseudoTransient overreaching (.identity (.finite 1)) =
        .ok (.identity overreaching (.finite 1)) ∧
      let problem := Problem.identity overreaching (.finite 1)
      let backend := Backend.mk .pseudoTransient (.blind fun _ => .vector [.finite 0])
      Scalar.isInf problem.step = false ∧ ∃ o, (backend.run 0 problem).result = .ok o ∧
        ∃ record ∈ (Result.ofOutcome problem o).history, ¬ record.step ≤ problem.stepMax := by
  have created := Problem.create_identity (c := overreaching) .pseudoTransient rfl (.finite 1)
  obtain ⟨loop, h⟩ := Backend.exists_loop? ⟨.pseudoTransient, .blind fun _ => .vector [.finite 0]⟩
    (.identity overreaching (.finite 1)) (by decide) rfl
  have begins : (Backend.mk .pseudoTransient (.blind fun _ => .vector [.finite 0])).Begins 0
      (.identity overreaching (.finite 1)) loop (.start (.vector [.finite 1]) (.finite 1)
        (.finite 1)) :=
    Backend.begins_first h
      (initialDistance_eq_ok_iff.2 ⟨Exact.residualDistance_identity zero_le_one, rfl⟩) (by decide)
      (by norm_num : (1e-12 : ℝ) ≤ 1) (by norm_num : (1e-9 : ℝ) < 1)
  obtain ⟨candidate, proposed, hcandidate, hadmits⟩ := Backend.propose_blind created h rfl rfl _
  have measured : candidateDistance loop.residual candidate.state = .ok (.finite 0) := by
    rw [hcandidate, Backend.residual_of_loop? h]
    exact candidateDistance_eq_ok_iff.2 ⟨_, Exact.residualDistance_identity le_rfl, rfl⟩
  have commits : loop.commits candidate (.finite 0) = true :=
    Bool.and_eq_true_iff.2 ⟨hadmits, rfl⟩
  obtain ⟨history, returns, hrecord⟩ := begins.returns
    (.accept candidate (.finite 0) proposed measured commits) <| by
      rw [Loop.not_continues_iff, Backend.tol_of_loop? h]
      exact fun hgo => absurd hgo.2 (by norm_num : ¬ (1e-9 : ℝ) < 0)
  exact ⟨created, rfl, _, returns, _, hrecord, (by norm_num : ¬ (1 : ℝ) ≤ 0.5)⟩

end Equilibrium
