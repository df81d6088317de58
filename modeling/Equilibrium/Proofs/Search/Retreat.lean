import Equilibrium.Proofs.Search.Singular

/-!
Streaks of rejections.

A rejected iteration keeps the committed state and its distance, resets the coefficient and divides
the step by the backoff, which is above one. A streak of rejections so goes down the quotients of
the step by the powers of the backoff, and as long as the streak goes on, they are not below the
floor of the step.

That a step becomes smaller by a division by more than one, and that its quotients come below
whatever floor is above zero, is true of a step that is above zero and not infinite. Both can fail.
Where nothing caps the step, it becomes infinite as soon as an infinite distance is improved on, and
then it stays infinite or undefined; and where the settings stall, a step of zero stays zero. These
are the only obstacles: rejections shorten the step and a floor above zero ends every streak exactly
if the settings do not let the step linger.
-/

namespace Equilibrium

/-! ### Rejections -/

namespace Loop

variable {loop : Loop Exact} {calls m : Nat} {p next : Progress Exact}

def Rejects (loop : Loop Exact) (calls : Nat) (p next : Progress Exact) : Prop :=
  ∃ record, loop.Step calls p next record ∧ record.accepted = false

def Streak (loop : Loop Exact) (calls : Nat) (p : Progress Exact) (m : Nat) : Prop :=
  ∃ records last, loop.Path calls p records last ∧ (∀ r ∈ records, r.accepted = false) ∧
    records.length = m

theorem Rejects.eq (h : loop.Rejects calls p next) :
    next = { p with
      step := p.step / loop.law.backoff
      coef := 1
      iteration := p.iteration + 1
      rejected := p.rejected + 1 } := by
  obtain ⟨record, hstep, hrecord⟩ := h
  cases hstep with
  | accept => cases hrecord
  | reject => rfl

/-- A streak begins with a rejected iteration, and goes on as a shorter streak. -/
theorem Streak.exists_rejects (h : loop.Streak calls p (m + 1)) :
    loop.continues p = true ∧ ∃ next, loop.Rejects calls p next ∧ loop.Streak calls next m := by
  obtain ⟨records, last, path, rejected, hlength⟩ := h
  cases path with
  | stop => cases hlength
  | @step _ next _ record records goes first rest =>
      refine ⟨goes, next, ⟨record, first, rejected record List.mem_cons_self⟩, records, last, rest,
        fun r hr => rejected r (List.mem_cons_of_mem record hr), Nat.succ.inj hlength⟩

/-- The step that a streak begins with bears all its divisions but the last. -/
theorem Streak.timesPower_le (stepMin : 0 < loop.stepMin) (backoff : 1 < loop.law.backoff)
    (h : loop.Streak calls p (m + 1)) :
    Exact.timesPower loop.stepMin loop.law.backoff m ≤ p.step := by
  induction m generalizing p with
  | zero => exact (continues_iff.1 h.exists_rejects.1).1
  | succ m ih =>
      obtain ⟨-, next, hrejects, hstreak⟩ := h.exists_rejects
      have hstep : next.step = p.step / loop.law.backoff := congrArg (·.step) hrejects.eq
      have hpower : 0 < Exact.timesPower loop.stepMin loop.law.backoff m :=
        Exact.zero_lt_timesPower stepMin (Exact.zero_lt_of_lt Exact.zero_lt_one backoff) m
      have hnext : Exact.timesPower loop.stepMin loop.law.backoff m ≤ p.step / loop.law.backoff :=
        hstep ▸ ih hstreak
      rw [Exact.timesPower_succ]
      exact Exact.mul_le_of_le_div hpower backoff hnext

/-- A floor above zero ends the streaks that begin with a step that is not infinite. -/
theorem exists_streak_le (stepMin : 0 < loop.stepMin) (backoff : 1 < loop.law.backoff)
    (hstep : p.step ≠ Scalar.infinity) : ∃ n, ∀ m, loop.Streak calls p m → m ≤ n := by
  obtain ⟨n, hn⟩ := Exact.exists_not_timesPower_le stepMin backoff hstep
  refine ⟨n, fun m hstreak => ?_⟩
  obtain hlt | hle := Nat.lt_or_ge n m
  · obtain ⟨k, rfl⟩ := Nat.exists_eq_succ_of_ne_zero (Nat.ne_zero_of_lt hlt)
    exact absurd (hstreak.timesPower_le stepMin backoff) (hn k (Nat.le_of_lt_succ hlt))
  · exact hle

end Loop

/-! ### Steps that are not infinite -/

theorem StepLaw.not_ceiling_lt_grow (law : StepLaw Exact) (step coef old new : Exact) :
    ¬ law.ceiling < law.grow step coef old new := by
  have hself : ¬ law.ceiling < law.ceiling := fun h =>
    Scalar.Ordered.not_le_of_lt h (Exact.le_of_lt h)
  unfold grow
  split
  · exact hself
  · unfold Scalar.capped
    split
    · exact hself
    · next hbelow => exact hbelow

theorem Loop.Step.step_ne_infinity {loop : Loop Exact} {calls : Nat} {p next : Progress Exact}
    {record : Record Exact} (range : loop.InRange) (ceiling : loop.law.ceiling ≠ Scalar.infinity)
    (hp : p.step ≠ Scalar.infinity) (h : loop.Step calls p next record) :
    next.step ≠ Scalar.infinity := by
  cases h with
  | accept candidate distance proposed measured commits =>
      intro hinfinite
      have hbelow :
          ¬ loop.law.ceiling < (loop.law.accept p.begun candidate.state distance).step :=
        StepLaw.not_ceiling_lt_grow _ _ _ _ _
      rw [hinfinite] at hbelow
      exact ceiling (Exact.eq_infinity_of_not_lt range.ceiling hbelow)
  | reject candidate distance proposed measured discards divides =>
      exact Exact.div_ne_infinity hp range.backoff

/-! ### Searches -/

/-- The settings under which a rejection may leave a step that is no smaller. -/
structure Settings.Lingers (s : Settings Exact) : Prop extends s.Repeats where
  stays : s.stepMax = Scalar.infinity ∨ s.stepMin = 0 ∧ s.backoff = Scalar.infinity

namespace Backend

/-- A rejected iteration keeps what has been committed, and a floor above zero leaves so much of the
step that a streak begins with. -/
structure Retreats (backend : Backend Exact) (calls : Nat) (problem : Problem Exact) : Prop where
  kept : ∀ loop p next, backend.Begins calls problem loop p → loop.Rejects calls p next →
    next.state = p.state ∧ next.distance = p.distance ∧ next.coef = 1
  streak : ∀ loop p m, backend.Begins calls problem loop p → loop.Streak calls p (m + 1) →
    0 < problem.stepMin → Exact.timesPower problem.stepMin problem.backoff m ≤ p.step

/-- A rejected iteration leaves a smaller step, and a floor above zero ends every streak. -/
structure Shortens (backend : Backend Exact) (calls : Nat) (problem : Problem Exact) : Prop where
  step : ∀ loop p next, backend.Begins calls problem loop p → loop.Rejects calls p next →
    next.step < p.step
  floor : ∀ loop p, backend.Begins calls problem loop p → 0 < problem.stepMin →
    ∃ n, ∀ m, loop.Streak calls p m → m ≤ n

variable {c : Config Exact} {strategy : Strategy} {r : Request Exact} {problem : Problem Exact}
  {tools : Toolbox Exact} {calls : Nat} {loop : Loop Exact} {p : Progress Exact}

theorem retreats (created : Problem.create strategy c r = .ok problem) :
    (Backend.mk strategy tools).Retreats calls problem := by
  constructor
  case kept =>
    intro loop p next begins hrejects
    rw [hrejects.eq]
    exact ⟨rfl, rfl, rfl⟩
  case streak =>
    intro loop p m begins hstreak hstepMin
    have hbackoff : loop.law.backoff = problem.backoff :=
      congrArg (·.backoff) (law_of_loop? begins.1)
    rw [← stepMin_of_loop? begins.1] at hstepMin ⊢
    rw [← hbackoff]
    exact hstreak.timesPower_le hstepMin (inRange_of_loop? created begins.1).backoff

/-- Unless the settings stall, an iteration begins with a step above zero. -/
theorem Begins.zero_lt_step (moves : ¬ c.settings.Stalls)
    (created : Problem.create strategy c r = .ok problem)
    (begins : (Backend.mk strategy tools).Begins calls problem loop p) : 0 < p.step := by
  obtain ⟨hloop, distance, records, hdistance, path, hlt, goes⟩ := begins
  exact positiveSteps moves created loop distance records p hloop hdistance path hlt goes

/-- If there is a ceiling wherever a second iteration can come, no iteration begins with an infinite
step. -/
theorem Begins.step_ne_infinity (created : Problem.create strategy c r = .ok problem)
    (ceiling : c.settings.Repeats → c.settings.stepMax ≠ Scalar.infinity)
    (begins : (Backend.mk strategy tools).Begins calls problem loop p) :
    p.step ≠ Scalar.infinity := by
  have range : loop.InRange := inRange_of_loop? created begins.1
  have hlaw : loop.law = problem.stepLaw := law_of_loop? begins.1
  have hfinite : Scalar.isInf c.settings.step = false := isInf_step_of_loop? created begins.1
  have hstart : c.settings.step ≠ Scalar.infinity := by
    intro hinfinite
    rw [hinfinite] at hfinite
    cases hfinite
  obtain hfirst | repeats := begins.eq_start_or_repeats created
  · obtain ⟨F, jacobian, start, mask, rfl⟩ := Problem.exists_assemble created
    obtain ⟨distance, rfl⟩ := hfirst
    exact hstart
  · obtain ⟨-, distance, records, -, path, -, -⟩ := begins
    obtain ⟨F, jacobian, start, mask, rfl⟩ := Problem.exists_assemble created
    have hceiling : loop.law.ceiling ≠ Scalar.infinity := by
      rw [hlaw]
      exact ceiling repeats
    exact path.invariant (I := fun q => q.step ≠ Scalar.infinity)
      (fun hq _ hstep => hstep.step_ne_infinity range hceiling hq) hstart

theorem shortens (moves : ¬ c.settings.Lingers)
    (created : Problem.create strategy c r = .ok problem) :
    (Backend.mk strategy tools).Shortens calls problem := by
  have hstalls : ¬ c.settings.Stalls := fun stalls =>
    moves ⟨stalls.repeats, .inr ⟨stalls.stepMin, stalls.backoff⟩⟩
  have hceiling : c.settings.Repeats → c.settings.stepMax ≠ Scalar.infinity := fun repeats h =>
    moves ⟨repeats, .inl h⟩
  constructor
  case step =>
    intro loop p next begins hrejects
    have hlower : 0 < p.step := begins.zero_lt_step hstalls created
    have hupper : p.step ≠ Scalar.infinity := begins.step_ne_infinity created hceiling
    rw [hrejects.eq]
    exact Exact.div_lt_of_one_lt hlower hupper (inRange_of_loop? created begins.1).backoff
  case floor =>
    intro loop p begins hstepMin
    rw [← stepMin_of_loop? begins.1] at hstepMin
    exact Loop.exists_streak_le hstepMin (inRange_of_loop? created begins.1).backoff
      (begins.step_ne_infinity created hceiling)

end Backend

/-! ### Steps that linger -/

def firstThen {β : Type} (first later : β) : Nat → β
  | 0 => first
  | _ + 1 => later

namespace Settings.Lingers

variable {c : Config Exact}

/-- There is a search in which a rejected iteration leaves a step that is no smaller. -/
theorem exists_rejects (lingers : c.settings.Lingers) (strategy : Strategy)
    (loops : strategy ≠ .relaxation) :
    ∃ states loop p next,
      (Backend.mk strategy (.blind states)).Begins 0 (.singular c) loop p ∧
      loop.Rejects 0 p next ∧ ¬ next.step < p.step := by
  have hfinite : Scalar.isFinite c.settings.step = true := lingers.isFinite_step
  have hbackoff : 1 < c.settings.backoff := c.inRange.backoff
  obtain ceiling | ⟨floor, backoff⟩ := lingers.stays
  · obtain ⟨d, habove⟩ := lingers.exists_tol_lt
    obtain ⟨loop, h⟩ := Backend.exists_loop? ⟨strategy, .blind (firstThen
      (.vector [.finite d⁻¹]) (.vector [0]))⟩ (.singular c) loops lingers.step
    obtain ⟨p, begins, hstep, hiteration, hstate⟩ :=
      lingers.reaches_ceiling h (ceiling ▸ lingers.stepMin_le_infinity) habove rfl
    obtain ⟨record, hrecord, hnext⟩ :=
      Backend.rejects_singular h hfinite 0 p hstate (by rw [hiteration]; rfl)
    refine ⟨_, loop, p, _, begins, ⟨record, hnext, hrecord⟩, ?_⟩
    change ¬ p.step / c.settings.backoff < p.step
    rw [hstep, ceiling]
    exact Exact.not_infinity_div_lt hbackoff
  · obtain ⟨loop, h⟩ := Backend.exists_loop? ⟨strategy, .blind fun _ => .vector [0]⟩
      (.singular c) loops lingers.step
    obtain ⟨p, begins, hstep, -, -, hstate⟩ := lingers.sinks h floor backoff rfl
    obtain ⟨record, hrecord, hnext⟩ := Backend.rejects_singular h hfinite 0 p hstate rfl
    refine ⟨_, loop, p, _, begins, ⟨record, hnext, hrecord⟩, ?_⟩
    change ¬ p.step / c.settings.backoff < p.step
    rw [hstep, backoff]
    exact lt_irrefl (0 : ℝ)

end Settings.Lingers

/-! ### The exact condition -/

/-- Rejected iterations keep what has been committed, whatever the settings; that they shorten the
step and come to its floor holds exactly if the settings do not let the step linger. -/
theorem Config.retreats_iff {c : Config Exact} {strategy : Strategy}
    (loops : strategy ≠ .relaxation) :
    (∀ r problem tools calls, Problem.create strategy c r = .ok problem →
      (Backend.mk strategy tools).Retreats calls problem) ∧
    ((∀ r problem tools calls, Problem.create strategy c r = .ok problem →
      (Backend.mk strategy tools).Shortens calls problem) ↔ ¬ c.settings.Lingers) := by
  refine ⟨fun r problem tools calls created => Backend.retreats created, ?_, ?_⟩
  · intro shortens lingers
    obtain ⟨states, loop, p, next, begins, hrejects, hnot⟩ := lingers.exists_rejects strategy loops
    have created := Problem.create_singular strategy c lingers.isFinite_step
    exact hnot ((shortens _ _ _ 0 created).step loop p next begins hrejects)
  · intro moves r problem tools calls created
    exact Backend.shortens moves created

noncomputable def Config.capped : Config Exact where
  settings := { Settings.standard with stepMax := .finite 10 }
  valid := Settings.fault?_eq_none_iff.2
    ⟨{ Settings.standard_inRange with stepMax := (by norm_num : (0 : ℝ) < 10) }, rfl⟩

theorem Settings.standard_repeats : (Settings.standard : Settings Exact).Repeats where
  step := rfl
  stepMin := (by norm_num : (1e-12 : ℝ) ≤ 1)
  maxIterations := by decide
  tol := Exact.noConfusion

/-- The ceiling has no part in whether a search can go on. -/
theorem Config.capped_repeats : capped.settings.Repeats :=
  { Settings.standard_repeats with }

/-- With a ceiling a search that starts infinitely far away may be rejected, and then the step
becomes smaller. -/
theorem Config.capped_retreats :
    Strategy.pseudoTransient ≠ .relaxation ∧
      Problem.create .pseudoTransient capped .singular = .ok (.singular capped) ∧
      let backend := Backend.mk .pseudoTransient (.blind fun _ => .vector [0])
      backend.Retreats 0 (.singular capped) ∧ backend.Shortens 0 (.singular capped) ∧
      ∃ loop p next, backend.Begins 0 (.singular capped) loop p ∧ loop.Rejects 0 p next ∧
        next.step < p.step := by
  have created := Problem.create_singular .pseudoTransient capped rfl
  have moves : ¬ capped.settings.Lingers := by
    intro lingers
    obtain ceiling | ⟨-, backoff⟩ := lingers.stays
    · exact Exact.noConfusion ceiling
    · exact Exact.noConfusion backoff
  have loops : Strategy.pseudoTransient ≠ .relaxation := by decide
  obtain ⟨retreats, shortens⟩ := retreats_iff (c := capped) loops
  have hshortens := shortens.2 moves _ _ (.blind fun _ => .vector [0]) 0 created
  obtain ⟨loop, h⟩ := Backend.exists_loop?
    ⟨.pseudoTransient, .blind fun _ => .vector [0]⟩ (.singular capped) loops rfl
  obtain ⟨record, hrecord, hnext⟩ := Backend.rejects_singular h rfl 0
    (.start (.vector [0]) capped.settings.step Scalar.infinity) rfl rfl
  exact ⟨loops, created, retreats _ _ _ 0 created, hshortens, loop, _, _,
    capped_repeats.begins_first h, ⟨record, hnext, hrecord⟩,
    hshortens.step loop _ _ (capped_repeats.begins_first h) ⟨record, hnext, hrecord⟩⟩

/-- Without one a rejected iteration may leave an infinite step as it is. -/
theorem Config.exact_keeps_infinite :
    Problem.create .pseudoTransient exact .singular = .ok (.singular exact) ∧
      initialDistance (.singular exact) = .ok Scalar.infinity ∧
      let backend := Backend.mk .pseudoTransient
        (.blind (firstThen (.vector [.finite 2⁻¹]) (.vector [0])))
      ∃ loop p next, backend.Begins 0 (.singular exact) loop p ∧ loop.Rejects 0 p next ∧
        p.step = Scalar.infinity ∧ next.step = Scalar.infinity ∧ ¬ next.step < p.step := by
  have repeats : exact.settings.Repeats := Settings.standard_repeats
  have above : exact.settings.tol < .finite 2 := (by norm_num : (1e-9 : ℝ) < 2)
  obtain ⟨loop, h⟩ := Backend.exists_loop? ⟨.pseudoTransient,
    .blind (firstThen (.vector [.finite 2⁻¹]) (.vector [0]))⟩ (.singular exact) (by decide) rfl
  obtain ⟨p, begins, hceiling, hiteration, hstate⟩ :=
    repeats.reaches_ceiling h repeats.stepMin_le_infinity above rfl
  have hstep : p.step = Scalar.infinity := hceiling
  obtain ⟨record, hrecord, hnext⟩ :=
    Backend.rejects_singular h rfl 0 p hstate (by rw [hiteration]; rfl)
  have hquotient : p.step / exact.settings.backoff = Scalar.infinity := by
    have hbackoff : ¬ (10.0 : ℝ) < 0 := by norm_num
    rw [hstep]
    exact if_neg hbackoff
  refine ⟨Problem.create_singular .pseudoTransient exact rfl, initialDistance_singular exact, loop,
    p, _, begins, ⟨record, hnext, hrecord⟩, hstep, hquotient, ?_⟩
  change ¬ p.step / exact.settings.backoff < p.step
  rw [hquotient]
  exact Exact.not_infinity_lt _

end Equilibrium
