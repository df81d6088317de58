import Equilibrium.Proofs.Search.Committed
import Equilibrium.Proofs.Search.Single

/-!
The stages of a search.

A search goes from stage to stage: each iteration that is completed leaves it at a committed state
and a distance. Which stages there are is said by the iterations, whether or not the search fails
later; `Backend.Reaches` does so for all strategies. The observers are called at each of them, in
order and once, and at the end, if the search comes to one. `Backend.run_stages` says both of every
search at once, and it is by induction on the budget of the loop, since a search that fails has no
path to its end.
-/

namespace Equilibrium

variable {α : Type} [Scalar α] {backend : Backend α} {problem : Problem α} {loop : Loop α}
  {calls budget k : Nat} {p q next : Progress α} {record : Record α} {place : Tensor α × α}

/-! ### Stages -/

/-- The iteration with this number is completed, and this is the committed state that it leaves,
with the distance. -/
inductive Backend.Reaches (backend : Backend α) (calls : Nat) (problem : Problem α) :
    Nat → Tensor α × α → Prop
  | loop {loop : Loop α} {p next : Progress α} {record : Record α}
      (begins : backend.Begins calls problem loop p) (completed : loop.Step calls p next record) :
      Reaches backend calls problem next.iteration next.told
  | direct {distance : α} {answer : Candidate α} (strategy : backend.strategy = .pseudoTransient)
      (infinite : Scalar.isInf problem.step = true)
      (initial : initialDistance problem = .ok distance)
      (answered : (problem.propose backend.tools.solver problem.directPlan calls problem.start
        Scalar.infinity).result = .ok answer) :
      Reaches backend calls problem 1 (answer.state, answer.innerDistance)
  | relaxed {distance reached time : α} {trajectory : Trajectory α} {state : Tensor α}
      (strategy : backend.strategy = .relaxation) (initial : initialDistance problem = .ok distance)
      (outside : ¬ distance ≤ problem.tol)
      (integrated : ((backend.tools.integrator problem.flow).integrate calls
        problem.relaxationCall).outcome = .ok trajectory)
      (last : trajectory.states.getLast? = some state)
      (measured : candidateDistance problem.residual state = .ok reached)
      (timed : trajectory.finalTime = .ok time) :
      Reaches backend calls problem 1 (state, reached)

/-- The calls to observers after so many iterations and the stages that follow. -/
def stageHooks (k : Nat) (places : List (Tensor α × α)) : List (Hook α) :=
  places.mapIdx fun i place => .iteration (k + i + 1) place.1 place.2

omit [Scalar α] in
theorem stageHooks_cons (k : Nat) (place : Tensor α × α) (places : List (Tensor α × α)) :
    stageHooks k (place :: places) =
      .iteration (k + 1) place.1 place.2 :: stageHooks (k + 1) places := by
  simp only [stageHooks, List.mapIdx_cons, Nat.add_right_comm k 1, Nat.add_assoc]

/-! ### Loops -/

namespace Loop

/-- So many iterations of a loop with this budget are completed, and lead here. -/
def Leads (loop : Loop α) (calls budget : Nat) (p : Progress α) (k : Nat)
    (place : Tensor α × α) : Prop :=
  ∃ records q, loop.Path calls p records q ∧ records.length = k ∧ k ≤ budget ∧ q.told = place

theorem leads_zero_iff : loop.Leads calls budget p 0 place ↔ p.told = place := by
  constructor
  · rintro ⟨records, q, path, hlength, -, rfl⟩
    cases path with
    | stop => rfl
    | step => cases hlength
  · rintro rfl
    exact ⟨[], p, .stop p, rfl, Nat.zero_le _, rfl⟩

theorem leads_succ_iff :
    loop.Leads calls budget p (k + 1) place ↔
      ∃ rest next record, budget = rest + 1 ∧ loop.continues p = true ∧
        loop.Step calls p next record ∧ loop.Leads calls rest next k place := by
  constructor
  · rintro ⟨records, q, path, hlength, hle, htold⟩
    obtain ⟨rest, rfl⟩ := Nat.exists_eq_succ_of_ne_zero (Nat.ne_zero_of_lt hle)
    cases path with
    | stop => cases hlength
    | step goes first path =>
        exact ⟨rest, _, _, rfl, goes, first, _, q, path, Nat.succ.inj hlength,
          Nat.le_of_succ_le_succ hle, htold⟩
  · rintro ⟨rest, next, record, rfl, goes, first, records, q, path, rfl, hle, htold⟩
    exact ⟨record :: records, q, .step goes first path, rfl, Nat.succ_le_succ hle, htold⟩

structure Stages (loop : Loop α) (calls budget : Nat) (p : Progress α)
    (places : List (Tensor α × α)) : Prop where
  leads : ∀ k place, (p.told :: places)[k]? = some place ↔ loop.Leads calls budget p k place
  told : hooks (loop.run calls budget p).notices = stageHooks p.iteration places
  length : ∀ last records, (loop.run calls budget p).result = .ok (last, records) →
    records.length = places.length

/-- There is no stage if no iteration is completed. -/
theorem stages_nil
    (stands : ∀ rest next record, budget = rest + 1 → loop.continues p = true →
      ¬ loop.Step calls p next record)
    (silent : hooks (loop.run calls budget p).notices = [])
    (stops : ∀ last records, (loop.run calls budget p).result = .ok (last, records) →
      records = []) : loop.Stages calls budget p [] where
  leads k place := by
    cases k with
    | zero => simp [leads_zero_iff]
    | succ k =>
        rw [leads_succ_iff]
        constructor
        · simp
        · rintro ⟨rest, next, record, hbudget, goes, first, -⟩
          exact absurd first (stands rest next record hbudget goes)
  told := silent
  length last records h := congrArg List.length (stops last records h)

/-- The stages of a run are that of its first iteration and those of the rest. -/
theorem Stages.cons
    (silent : ∀ calls x step, hooks (loop.propose calls x step).notices = [])
    (goes : loop.continues p = true) (first : loop.Step calls p next record)
    {places : List (Tensor α × α)} (rest : loop.Stages calls budget next places) :
    loop.Stages calls (budget + 1) p (next.told :: places) where
  leads k place := by
    cases k with
    | zero => simp [leads_zero_iff]
    | succ k =>
        rw [List.getElem?_cons_succ, rest.leads, leads_succ_iff]
        constructor
        · intro h
          exact ⟨budget, next, record, rfl, goes, first, h⟩
        · rintro ⟨budget', next', record', hbudget, -, first', h⟩
          cases hbudget
          have hsame := (iterate_result_eq_ok_iff.2 first').symm.trans
            (iterate_result_eq_ok_iff.2 first)
          cases hsame
          exact h
  told := by
    have hfirst : hooks (loop.iterate calls p).notices =
        [.iteration next.iteration next.state next.distance] := by
      rw [iterate_notices (iterate_result_eq_ok_iff.2 first), hooks_append, silent]
      rfl
    rw [run_succ_notices goes first, hooks_append, hfirst, rest.told, stageHooks_cons,
      first.iteration_eq]
    rfl
  length last records h := by
    obtain ⟨next', record', records', first', hrest, rfl⟩ := (run_succ_result_eq_ok_iff goes).1 h
    cases (iterate_result_eq_ok_iff.2 first').symm.trans (iterate_result_eq_ok_iff.2 first)
    exact congrArg (· + 1) (rest.length last records' hrest)

/-- Every run has its stages, whether it returns or fails. -/
theorem exists_stages
    (silent : ∀ calls x step, hooks (loop.propose calls x step).notices = [])
    (calls budget : Nat) (p : Progress α) : ∃ places, loop.Stages calls budget p places := by
  induction budget generalizing p with
  | zero =>
      refine ⟨[], stages_nil (fun _ _ _ h => by cases h) rfl fun last records h => ?_⟩
      cases h
      rfl
  | succ budget ih =>
      cases hgo : loop.continues p with
      | false =>
          refine ⟨[], stages_nil ?_ ?_ fun last records h => ?_⟩
          · rintro _ _ _ _ goes
            rw [hgo] at goes
            cases goes
          · rw [run_of_not_continues hgo]
            rfl
          · rw [run_of_not_continues hgo] at h
            cases h
            rfl
      | true =>
          cases hfirst : (loop.iterate calls p).result with
          | error fault =>
              refine ⟨[], stages_nil ?_ ?_ fun last records h => ?_⟩
              · intro _ next record _ _ first
                rw [iterate_result_eq_ok_iff.2 first] at hfirst
                cases hfirst
              · rw [run_succ hgo, Traced.bind_notices_of_error hfirst,
                  iterate_notices_of_error hfirst, silent]
              · rw [run_succ hgo, Traced.bind_result_of_error hfirst] at h
                cases h
          | ok reached =>
              obtain ⟨next, record⟩ := reached
              obtain ⟨places, rest⟩ := ih next
              exact ⟨next.told :: places,
                .cons silent hgo (iterate_result_eq_ok_iff.1 hfirst) rest⟩

end Loop

/-! ### Searches -/

namespace Backend

theorem Reaches.initial (h : backend.Reaches calls problem k place) :
    ∃ distance, initialDistance problem = .ok distance := by
  cases h with
  | loop begins completed =>
      obtain ⟨-, distance, -, hdistance, -⟩ := begins
      exact ⟨distance, hdistance⟩
  | direct strategy infinite initial answered => exact ⟨_, initial⟩
  | relaxed strategy initial outside integrated last measured timed => exact ⟨_, initial⟩

theorem reaches_iff_of_loop? (h : backend.loop? problem = some loop) {distance : α}
    (hdistance : initialDistance problem = .ok distance) :
    backend.Reaches calls problem (k + 1) place ↔
      loop.Leads calls (iterationBudget problem.maxIterations)
        (.start problem.start problem.step distance) (k + 1) place := by
  constructor
  · generalize hnumber : k + 1 = number
    intro reaches
    cases reaches with
    | loop begins completed =>
        obtain ⟨hloop, distance', records, hdistance', path, hlt, goes⟩ := begins
        cases hloop.symm.trans h
        cases hdistance'.symm.trans hdistance
        refine ⟨_, _, path.concat goes completed, ?_, ?_, rfl⟩
        · rw [completed.iteration_eq, path.iteration_eq, List.length_append]
          exact congrArg (· + 1) (Nat.zero_add _).symm
        · rw [completed.iteration_eq, path.iteration_eq]
          exact (Nat.zero_add _).symm ▸ hlt
    | direct strategy infinite initial answered =>
        cases h.symm.trans (loop?_eq_none_iff.2 (.inl ⟨strategy, infinite⟩))
    | relaxed strategy initial outside integrated last measured timed =>
        cases h.symm.trans (loop?_eq_none_iff.2 (.inr strategy))
  · rintro ⟨records, last, path, hlength, hle, rfl⟩
    have hlt : k < records.length := hlength ▸ Nat.lt_succ_self k
    obtain ⟨q, next, before, goes, completed, after⟩ := path.cut hlt
    have hnumber : next.iteration = k + 1 := by
      rw [completed.iteration_eq, before.iteration_of_take hlt.le]
      exact congrArg (· + 1) (Nat.zero_add k)
    rw [← hlength, List.drop_length] at after
    cases after
    rw [← hnumber]
    have hshort : (records.take k).length < iterationBudget problem.maxIterations := by
      rw [List.length_take_of_le hlt.le]
      exact hle
    exact .loop ⟨h, distance, _, hdistance, before, hshort, goes⟩ completed

theorem reaches_iff_of_infinite (strategy : backend.strategy = .pseudoTransient)
    (infinite : Scalar.isInf problem.step = true) {distance : α}
    (hdistance : initialDistance problem = .ok distance) :
    backend.Reaches calls problem k place ↔
      k = 1 ∧ ∃ answer, (problem.propose backend.tools.solver problem.directPlan calls
        problem.start Scalar.infinity).result = .ok answer ∧
        place = (answer.state, answer.innerDistance) := by
  constructor
  · intro h
    cases h with
    | loop begins completed =>
        cases begins.1.symm.trans (loop?_eq_none_iff.2 (.inl ⟨strategy, infinite⟩))
    | direct _ _ _ answered => exact ⟨rfl, _, answered, rfl⟩
    | relaxed strategy' initial outside integrated last measured timed =>
        rw [strategy] at strategy'
        cases strategy'
  · rintro ⟨rfl, answer, answered, rfl⟩
    exact .direct strategy infinite hdistance answered

theorem reaches_iff_of_relaxation (strategy : backend.strategy = .relaxation) {distance : α}
    (hdistance : initialDistance problem = .ok distance) :
    backend.Reaches calls problem k place ↔
      k = 1 ∧ ¬ distance ≤ problem.tol ∧ ∃ trajectory state reached time,
        ((backend.tools.integrator problem.flow).integrate calls
          problem.relaxationCall).outcome = .ok trajectory ∧
        trajectory.states.getLast? = some state ∧
        candidateDistance problem.residual state = .ok reached ∧
        trajectory.finalTime = .ok time ∧ place = (state, reached) := by
  constructor
  · intro h
    cases h with
    | loop begins completed =>
        cases begins.1.symm.trans (loop?_eq_none_iff.2 (.inr strategy))
    | direct strategy' infinite initial answered =>
        rw [strategy] at strategy'
        cases strategy'
    | relaxed _ initial outside integrated last measured timed =>
        cases initial.symm.trans hdistance
        exact ⟨rfl, outside, _, _, _, _, integrated, last, measured, timed, rfl⟩
  · rintro ⟨rfl, outside, trajectory, state, reached, time, integrated, last, measured, timed, rfl⟩
    exact .relaxed strategy hdistance outside integrated last measured timed

/-- What a search makes known to its observers, and of which stages. -/
structure Stages (backend : Backend α) (calls : Nat) (problem : Problem α)
    (places : List (Tensor α × α)) : Prop where
  reaches : ∀ k place, places[k]? = some place ↔ backend.Reaches calls problem (k + 1) place
  returns : ∀ o, (backend.run calls problem).result = .ok o →
    ∃ (p : Progress α) (history : List (Record α)), o = p.outcome problem.tol history ∧
      p.iteration = places.length ∧
      hooks (backend.run calls problem).notices =
        stageHooks 0 places ++ hooks (p.closing problem.tol)
  fails : ∀ fault, (backend.run calls problem).result = .error fault →
    hooks (backend.run calls problem).notices = stageHooks 0 places

/-- A search that fails before an iteration is completed has no stages. -/
theorem Stages.of_error {fault : Fault α}
    (fails : (backend.run calls problem).result = .error fault)
    (unreached : ∀ k place, ¬ backend.Reaches calls problem (k + 1) place)
    (silent : hooks (backend.run calls problem).notices = []) :
    backend.Stages calls problem [] where
  reaches k place := iff_of_false (by simp) (unreached k place)
  returns o returns := by
    rw [fails] at returns
    cases returns
  fails _ _ := silent

/-- One that returns has those that its iterations lead to. -/
theorem Stages.of_ok {p : Progress α} {history : List (Record α)} {places : List (Tensor α × α)}
    (returns : (backend.run calls problem).result = .ok (p.outcome problem.tol history))
    (reaches : ∀ k place,
      places[k]? = some place ↔ backend.Reaches calls problem (k + 1) place)
    (length : p.iteration = places.length)
    (told : hooks (backend.run calls problem).notices =
      stageHooks 0 places ++ hooks (p.closing problem.tol)) :
    backend.Stages calls problem places where
  reaches := reaches
  returns o h := ⟨p, history, Except.ok.inj (h.symm.trans returns), length, told⟩
  fails fault h := by
    rw [returns] at h
    cases h

theorem stages_of_loop? (h : backend.loop? problem = some loop) {distance : α}
    (hdistance : initialDistance problem = .ok distance) :
    ∃ places, backend.Stages calls problem places := by
  obtain ⟨places, stages⟩ := Loop.exists_stages (hooks_propose_of_loop? h) calls
    (iterationBudget problem.maxIterations) (.start problem.start problem.step distance)
  have hrun : backend.run calls problem = loop.search calls problem distance := by
    rw [run_of_loop? h, hdistance]
    rfl
  refine ⟨places, ?_, fun o returns => ?_, fun fault fails => ?_⟩
  · intro k place
    rw [reaches_iff_of_loop? h hdistance, ← stages.leads]
    rfl
  · rw [hrun, Loop.search] at returns ⊢
    obtain ⟨⟨last, records⟩, hlast, hfinish⟩ := Traced.bind_result_eq_ok_iff.1 returns
    cases hfinish
    refine ⟨last, records, rfl, ?_, ?_⟩
    · rw [(Loop.run_result_eq_ok_iff.1 hlast).1.iteration_eq, stages.length last records hlast]
      exact Nat.zero_add _
    · rw [Traced.bind_notices_of_ok hlast, hooks_append, stages.told]
      rfl
  · rw [hrun, Loop.search] at fails ⊢
    cases hlast : (loop.run calls (iterationBudget problem.maxIterations)
      (.start problem.start problem.step distance)).result with
    | error fault' =>
        rw [Traced.bind_notices_of_error hlast, stages.told]
        rfl
    | ok reached =>
        rw [Traced.bind_result_of_ok hlast] at fails
        cases fails

theorem stages_of_infinite (strategy : backend.strategy = .pseudoTransient)
    (infinite : Scalar.isInf problem.step = true) {distance : α}
    (hdistance : initialDistance problem = .ok distance) :
    ∃ places, backend.Stages calls problem places := by
  have hrun : backend.run calls problem =
      problem.solveDirectly backend.tools.solver calls := by
    rw [← run_of_infinite backend.tools calls infinite hdistance, ← strategy]
  cases hanswer : (problem.propose backend.tools.solver problem.directPlan calls problem.start
    Scalar.infinity).result with
  | error fault =>
      have hresult : (backend.run calls problem).result = .error fault := by
        rw [hrun, Problem.solveDirectly, Traced.bind_result_of_error hanswer]
      refine ⟨[], .of_error hresult (fun k place => ?_) ?_⟩
      · simp [reaches_iff_of_infinite strategy infinite hdistance, hanswer]
      · rw [hrun, Problem.solveDirectly, Traced.bind_notices_of_error hanswer,
          Problem.hooks_propose]
  | ok answer =>
      have hresult := hrun ▸ Problem.solveDirectly_result_eq_ok_iff.2 ⟨answer, hanswer, rfl⟩
      refine ⟨[(answer.state, answer.innerDistance)], .of_ok hresult (fun k place => ?_) rfl ?_⟩
      · rw [reaches_iff_of_infinite strategy infinite hdistance, hanswer]
        cases k with
        | zero => simp [eq_comm]
        | succ k => simp
      · rw [hrun, Problem.solveDirectly, Traced.bind_notices_of_ok hanswer, hooks_append,
          Problem.hooks_propose]
        rfl

/-- A relaxation that fails has not called its observers. -/
theorem hooks_relax_of_error {integrator : Integrator α} {distance : α}
    (hdistance : initialDistance problem = .ok distance) (outside : ¬ distance ≤ problem.tol)
    {fault : Fault α} (fails : (problem.relax integrator calls).result = .error fault) :
    hooks (problem.relax integrator calls).notices = [] := by
  rw [Problem.relax, hdistance, Traced.lift_eq, Traced.bind_ok, if_neg outside] at fails ⊢
  simp only [List.nil_append] at fails ⊢
  cases hask : (integrator.ask calls (problem.flowCall problem.start problem.horizon)).result with
  | error _ => rw [Traced.bind_notices_of_error hask, Integrator.hooks_ask]
  | ok trajectory =>
      rw [Traced.bind_result_of_ok hask] at fails
      rw [Traced.bind_notices_of_ok hask, hooks_append, Integrator.hooks_ask]
      cases hstate : trajectory.finalState with
      | error _ => rfl
      | ok state =>
          cases hmeasured : candidateDistance problem.residual state with
          | error _ => simp [hmeasured]
          | ok reached =>
              cases htime : trajectory.finalTime with
              | error _ => simp [hmeasured]
              | ok time => simp [hstate, hmeasured, htime, Progress.finish] at fails

/-- One that returns from outside its tolerance has called them once, and then at its end. -/
theorem hooks_relax_of_ok {integrator : Integrator α} {distance reached time : α}
    (hdistance : initialDistance problem = .ok distance) (outside : ¬ distance ≤ problem.tol)
    {trajectory : Trajectory α} {state : Tensor α}
    (integrated : (integrator.integrate calls problem.relaxationCall).outcome = .ok trajectory)
    (last : trajectory.states.getLast? = some state)
    (measured : candidateDistance problem.residual state = .ok reached)
    (timed : trajectory.finalTime = .ok time) :
    hooks (problem.relax integrator calls).notices =
      stageHooks 0 [(state, reached)] ++
        hooks ((Trajectory.progress state time reached).closing problem.tol) := by
  have hask : (integrator.ask calls (problem.flowCall problem.start problem.horizon)).result =
      .ok trajectory := integrated
  rw [Problem.relax, hdistance, Traced.lift_eq, Traced.bind_ok, if_neg outside, List.nil_append,
    Traced.bind_notices_of_ok hask, hooks_append, Integrator.hooks_ask]
  simp only [Trajectory.finalState_eq_ok_iff.2 last, measured, timed, Traced.lift_eq,
    Traced.bind_ok]
  rfl

theorem stages_of_relaxation (strategy : backend.strategy = .relaxation) {distance : α}
    (hdistance : initialDistance problem = .ok distance) :
    ∃ places, backend.Stages calls problem places := by
  have hrun : backend.run calls problem =
      problem.relax (backend.tools.integrator problem.flow) calls := by rw [run, strategy]
  by_cases within : distance ≤ problem.tol
  · rw [Problem.relax_of_within hdistance within] at hrun
    refine ⟨[], .of_ok (congrArg (·.result) hrun) (fun k place => ?_) rfl ?_⟩
    · simp [reaches_iff_of_relaxation strategy hdistance, within]
    · rw [hrun]
      rfl
  · cases hresult : (backend.run calls problem).result with
    | error fault =>
        refine ⟨[], .of_error hresult (fun k place => ?_) ?_⟩
        · rw [reaches_iff_of_relaxation strategy hdistance]
          rintro ⟨-, -, trajectory, state, reached, time, integrated, last, measured, timed, -⟩
          have returns := (Problem.relax_result_eq_ok_iff_of_not_within hdistance within).2
            ⟨trajectory, state, reached, time, integrated, last, measured, timed, rfl⟩
          rw [← hrun, hresult] at returns
          cases returns
        · rw [hrun] at hresult ⊢
          exact hooks_relax_of_error hdistance within hresult
    | ok o =>
        obtain ⟨trajectory, state, reached, time, integrated, last, measured, timed, rfl⟩ :=
          (Problem.relax_result_eq_ok_iff_of_not_within hdistance within).1 (hrun ▸ hresult)
        refine ⟨[(state, reached)], .of_ok hresult (fun k place => ?_) rfl ?_⟩
        · rw [reaches_iff_of_relaxation strategy hdistance]
          cases k with
          | zero => simp [eq_comm, within, integrated, last, measured, timed]
          | succ k => simp
        · rw [hrun]
          exact hooks_relax_of_ok hdistance within integrated last measured timed

/-- Every search has its stages and calls its observers at them, whatever becomes of it. -/
theorem exists_stages (backend : Backend α) (calls : Nat) (problem : Problem α) :
    ∃ places, backend.Stages calls problem places := by
  cases hdistance : initialDistance problem with
  | error fault =>
      have hrun := backend.run_of_initialDistance calls hdistance
      refine ⟨[], .of_error (congrArg (·.result) hrun) (fun k place reaches => ?_) ?_⟩
      · obtain ⟨distance, h⟩ := reaches.initial
        rw [hdistance] at h
        cases h
      · rw [hrun]
        rfl
  | ok distance =>
      cases hloop : backend.loop? problem with
      | some loop => exact stages_of_loop? hloop hdistance
      | none =>
          obtain ⟨strategy, infinite⟩ | strategy := loop?_eq_none_iff.1 hloop
          · exact stages_of_infinite strategy infinite hdistance
          · exact stages_of_relaxation strategy hdistance

/-- A search returns where it began or at one of its stages. -/
theorem reaches_of_returns {o : Outcome α}
    (returns : (backend.run calls problem).result = .ok o) :
    o.state = problem.start ∨ ∃ k, backend.Reaches calls problem k (o.state, o.distance) := by
  cases hloop : backend.loop? problem with
  | some loop =>
      obtain ⟨distance, last, records, hdistance, path, hle, -, rfl⟩ :=
        (run_result_eq_ok_iff_of_loop? hloop).1 returns
      obtain rfl | ⟨earlier, q, record, before, hlt, goes, completed⟩ := path.eq_or_step
      · exact .inl rfl
      · exact .inr ⟨_, .loop ⟨hloop, distance, earlier, hdistance, before, hlt.trans_le hle, goes⟩
          completed⟩
  | none =>
      cases hdistance : initialDistance problem with
      | error fault =>
          rw [run_of_initialDistance _ _ hdistance] at returns
          cases returns
      | ok distance =>
          obtain ⟨strategy, tools⟩ := backend
          obtain ⟨hs, infinite⟩ | hs := loop?_eq_none_iff.1 hloop
          · cases hs
            rw [run_of_infinite tools calls infinite hdistance,
              Problem.solveDirectly_result_eq_ok_iff] at returns
            obtain ⟨answer, answered, rfl⟩ := returns
            exact .inr ⟨1, .direct rfl infinite hdistance answered⟩
          · cases hs
            by_cases within : distance ≤ problem.tol
            · rw [run, Problem.relax_of_within hdistance within] at returns
              cases returns
              exact .inl rfl
            · obtain ⟨trajectory, state, reached, time, integrated, last, measured, timed, rfl⟩ :=
                (Problem.relax_result_eq_ok_iff_of_not_within hdistance within).1 returns
              exact .inr ⟨1, .relaxed rfl hdistance within integrated last measured timed⟩

end Backend

end Equilibrium
