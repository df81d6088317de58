import Equilibrium.Proofs.Residual.Magnitude
import Equilibrium.Proofs.Search.Single
import Equilibrium.Proofs.Search.Singular
import Equilibrium.Proofs.Soundness

/-!
The steady-state event and the tolerance.

Three tests in three places have to agree on what a steady state is. A search integrates only from a
state above the tolerance, the integration watches for an event that lies at half the tolerance, and
the search stops at a state within the tolerance. Half the tolerance is between zero and the
tolerance as long as that is finite, so the event is above zero wherever an integration starts, and
where it has fallen to zero the search is over. Under an infinite tolerance, where the two are the
same, there is nothing to integrate.
-/

namespace Equilibrium

/-! ### The event -/

namespace Exact

variable {F : Field Exact} {tol time v d : Exact} {y value : Tensor Exact} {t : ℝ}

theorem steadyMargin_eq : (steadyMargin : Exact) = finite (1 / 2) := by
  refine congrArg finite ?_
  norm_num

/-- Under a finite tolerance the event is how far the distance is above the margin, and that also
where the distance is undefined and counts as infinite. -/
theorem steadyEvent_finite_eq_ok_iff :
    steadyEvent F (finite t) time y = .ok v ↔
      ∃ d, candidateDistance F y = .ok d ∧ v = d - finite (1 / 2 * t) := by
  simp only [steadyEvent, except_bind_eq_ok_iff, candidateDistance_eq_ok_iff]
  rw [steadyMargin_eq, finite_mul_finite]
  constructor
  · rintro ⟨d, hd, h⟩
    cases h
    refine ⟨_, ⟨d, hd, rfl⟩, ?_⟩
    cases d with
    | undefined => rfl
    | infinite s => rfl
    | finite x => rfl
  · rintro ⟨_, ⟨d, hd, rfl⟩, rfl⟩
    refine ⟨d, hd, ?_⟩
    cases d with
    | undefined => rfl
    | infinite s => rfl
    | finite x => rfl

/-- Above the tolerance the event is above zero. -/
theorem zero_lt_steadyEvent (htol : 0 < tol) (measured : candidateDistance F y = .ok d)
    (above : tol < d) (time : Exact) : ∃ v, steadyEvent F tol time y = .ok v ∧ 0 < v := by
  obtain rfl | ⟨t, ht, rfl⟩ := zero_lt_iff.1 htol
  · exact absurd above (not_infinity_lt d)
  refine ⟨_, steadyEvent_finite_eq_ok_iff.2 ⟨d, measured, rfl⟩, ?_⟩
  obtain rfl | ⟨x, -, rfl⟩ := zero_lt_iff.1 (zero_lt_of_lt htol above)
  · rfl
  · have hx : t < x := above
    rw [finite_sub_finite, zero_eq, finite_lt_finite]
    linarith

/-- Where the event is not above zero, the distance is within the tolerance. -/
theorem within_of_steadyEvent (htol : 0 < tol) (bounded : tol ≠ Scalar.infinity)
    (h : steadyEvent F tol time y = .ok v) (hv : v ≤ 0) :
    ∃ d, candidateDistance F y = .ok d ∧ Scalar.isFinite d = true ∧ d ≤ tol := by
  obtain ⟨t, ht, rfl⟩ := (zero_lt_iff.1 htol).resolve_left bounded
  obtain ⟨d, measured, rfl⟩ := steadyEvent_finite_eq_ok_iff.1 h
  refine ⟨d, measured, ?_⟩
  cases d with
  | undefined => exact absurd hv (not_undefined_le 0)
  | infinite s =>
      obtain rfl : s = false := (candidateDistance_nonneg measured).2
      cases hv
  | finite x =>
      rw [finite_sub_finite, zero_eq, finite_le_finite] at hv
      refine ⟨rfl, ?_⟩
      rw [finite_le_finite]
      linarith

/-- Where a component of the residual is undefined, the event is infinite. -/
theorem steadyEvent_of_isNaN (hvalue : F y.atLeastVector = .ok value)
    (undefined : value.entries.any Scalar.isNaN = true) (haxes : value.shape.length ≤ 1)
    (tol time : Exact) : steadyEvent F tol time y = .ok Scalar.infinity := by
  obtain ⟨x, hx, -⟩ := List.any_eq_true.1 undefined
  obtain ⟨d, hd⟩ := exists_residualDistance_of_ne_nil hvalue haxes (List.ne_nil_of_mem hx)
  have hundefined : Scalar.isNaN d = true := by rw [isNaN_residualDistance hd hvalue, undefined]
  refine except_bind_eq_ok_iff.2 ⟨d, hd, ?_⟩
  rw [if_pos hundefined]
  rfl

/-- A residual with several axes is no vector, and the event fails on it. -/
theorem steadyEvent_of_lt_length (hvalue : F y.atLeastVector = .ok value)
    (haxes : 1 < value.shape.length) (tol time : Exact) :
    steadyEvent F tol time y = .error .notVector :=
  except_bind_eq_error_iff.2 (.inl (residualDistance_of_lt_length hvalue haxes))

end Exact

/-! ### Integrations -/

variable {α : Type} [Scalar α] {problem : Problem α} {calls k : Nat}
  {exchange : FlowCall α × FlowReply α}

namespace Loop

variable {loop : Loop α} {p : Progress α} {budget : Nat}

/-- If each iteration makes one exchange, then the exchange at some place of a run, even of one that
fails later, is that of the iteration which begins after so many records. -/
theorem exists_path_of_flowExchange {asks : Progress α → FlowCall α × FlowReply α}
    (once : ∀ q, flowExchanges (loop.iterate calls q).notices = [asks q])
    (h : (flowExchanges (loop.run calls budget p).notices)[k]? = some exchange) :
    ∃ records q, loop.Path calls p records q ∧ records.length = k ∧ k < budget ∧
      loop.continues q = true ∧ exchange = asks q := by
  -- By induction on the budget: the first exchange is that of the first iteration, and any other is
  -- one of the run that is left after it.
  induction budget generalizing p k with
  | zero => cases h
  | succ budget ih =>
      cases goes : loop.continues p with
      | false =>
          rw [run_of_not_continues goes] at h
          cases h
      | true =>
          cases k with
          | zero =>
              obtain ⟨later, hlater⟩ := exists_run_succ_notices goes
              rw [hlater, flowExchanges_append, once] at h
              cases h
              exact ⟨[], p, .stop p, rfl, Nat.succ_pos budget, goes, rfl⟩
          | succ k =>
              cases hstep : (loop.iterate calls p).result with
              | error fault =>
                  rw [run_succ goes, Traced.bind_notices_of_error hstep, once] at h
                  cases h
              | ok result =>
                  obtain ⟨next, record⟩ := result
                  have first := iterate_result_eq_ok_iff.1 hstep
                  rw [run_succ_notices goes first, flowExchanges_append, once] at h
                  obtain ⟨records, q, path, hlength, hlt, hq, hexchange⟩ := ih h
                  exact ⟨record :: records, q, .step goes first path, congrArg (· + 1) hlength,
                    Nat.succ_lt_succ hlt, hq, hexchange⟩

end Loop

theorem Problem.flowExchanges_iterate (problem : Problem α) (integrator : Integrator α)
    (calls : Nat) (p : Progress α) :
    flowExchanges ((problem.horizonLoop integrator).iterate calls p).notices =
      [(problem.flowCall p.state p.step,
        integrator.integrate (calls + p.iteration) (problem.flowCall p.state p.step))] := by
  refine (Traced.flowExchanges_bind fun candidate => ?_).trans flowExchanges_proposeByFlow
  refine (Traced.flowExchanges_bind fun distance => ?_).trans rfl
  refine (Traced.flowExchanges_bind fun next => ?_).trans rfl
  exact Traced.flowExchanges_bind fun _ => rfl

/-- The exchange at some place of a search over horizons is that of the iteration which begins after
so many records. -/
theorem Backend.exists_path_of_flowExchange {tools : Toolbox α}
    (h : (flowExchanges ((Backend.mk .horizons tools).run calls problem).notices)[k]? =
      some exchange) :
    let integrator := tools.integrator problem.flow
    let loop := problem.horizonLoop integrator
    ∃ distance records q, initialDistance problem = .ok distance ∧
      loop.Path calls (.start problem.start problem.step distance) records q ∧
      records.length = k ∧ k < iterationBudget problem.maxIterations ∧ loop.continues q = true ∧
      exchange = (problem.flowCall q.state q.step,
        integrator.integrate (calls + q.iteration) (problem.flowCall q.state q.step)) := by
  cases hdistance : initialDistance problem with
  | error fault => simp [run, Problem.continueHorizons, hdistance] at h
  | ok distance =>
      rw [run_of_loop? (loop?_horizons tools problem), hdistance, Traced.lift_eq, Traced.bind_ok,
        List.nil_append, Loop.search, Traced.flowExchanges_bind fun _ =>
          Progress.flowExchanges_closing _ _] at h
      obtain ⟨records, q, path, hlength, hlt, goes, hexchange⟩ :=
        Loop.exists_path_of_flowExchange (problem.flowExchanges_iterate _ calls) h
      exact ⟨distance, records, q, rfl, path, hlength, hlt, goes, hexchange⟩

/-! ### Agreement -/

/-- A search is over with its integration number `k`, counted from zero: the iteration that made it
is committed, and the result is the state `y` that it ended in, within the tolerance. -/
structure Backend.ConvergesAt (backend : Backend α) (calls : Nat) (problem : Problem α) (k : Nat)
    (y : Tensor α) : Prop where
  exchanges : (flowExchanges (backend.run calls problem).notices).length = k + 1
  result : ∀ o, (backend.run calls problem).result = .ok o →
    let result := Result.ofOutcome problem o
    result.history.length = k + 1 ∧
      (∃ record, result.history[k]? = some record ∧ record.accepted = true) ∧
      result.converged = true ∧ result.state = y

/-- An integration of a search agrees with its tolerance. -/
structure Backend.EventAgrees (backend : Backend Exact) (calls : Nat) (problem : Problem Exact)
    (k : Nat) (exchange : FlowCall Exact × FlowReply Exact) : Prop where
  watched : exchange.1.event = some (steadyEvent problem.residual problem.tol) ∧
    exchange.1.rule = some .stopping
  starts : ∀ time, ∃ v, steadyEvent problem.residual problem.tol time exchange.1.start = .ok v ∧
    0 < v ∧ ∀ v', v' ≤ 0 → EventRule.stopping.crossed v v' = true
  /-- If it ends where the event is not above zero, the search ends there as well, and returns as
  soon as it is told the time for which a single integration has to ask. -/
  ends : ∀ trajectory y time v, exchange.2.outcome = .ok trajectory →
    trajectory.states.getLast? = some y →
    steadyEvent problem.residual problem.tol time y = .ok v → v ≤ 0 →
    backend.ConvergesAt calls problem k y ∧
      ((backend.strategy = .relaxation → ∃ time, trajectory.finalTime = .ok time) →
        ∃ o, (backend.run calls problem).result = .ok o)

namespace Backend

section

variable {tools : Toolbox Exact} {problem : Problem Exact}
  {exchange : FlowCall Exact × FlowReply Exact} {x : Tensor Exact} {length d : Exact}

/-- An integration agrees with the tolerance if it starts above it and the search ends with the
first one that comes within. -/
theorem EventAgrees.of_above {backend : Backend Exact} (htol : 0 < problem.tol)
    (call : exchange.1 = problem.flowCall x length)
    (measured : candidateDistance problem.residual x = .ok d) (above : problem.tol < d)
    (ends : ∀ trajectory y reached, exchange.2.outcome = .ok trajectory →
      trajectory.states.getLast? = some y → candidateDistance problem.residual y = .ok reached →
      Scalar.isFinite reached = true → reached ≤ problem.tol →
      backend.ConvergesAt calls problem k y ∧
        ((backend.strategy = .relaxation → ∃ time, trajectory.finalTime = .ok time) →
          ∃ o, (backend.run calls problem).result = .ok o)) :
    backend.EventAgrees calls problem k exchange := by
  have hbounded : problem.tol ≠ Scalar.infinity := fun hinfinite =>
    Exact.not_infinity_lt d (hinfinite ▸ above)
  constructor
  case watched =>
    rw [call]
    exact ⟨rfl, rfl⟩
  case starts =>
    intro time
    rw [call]
    obtain ⟨v, hv, hpos⟩ := Exact.zero_lt_steadyEvent htol measured above time
    refine ⟨v, hv, hpos, fun v' hv' => ?_⟩
    exact Bool.and_eq_true_iff.2
      ⟨decide_eq_true (Exact.le_of_lt hpos), decide_eq_true hv'⟩
  case ends =>
    intro trajectory y time v htrajectory hy hevent hv
    obtain ⟨reached, hreached, hfinite, hwithin⟩ :=
      Exact.within_of_steadyEvent htol hbounded hevent hv
    exact ends trajectory y reached htrajectory hy hreached hfinite hwithin

theorem eventAgrees_horizons (htol : 0 < problem.tol)
    (h : (flowExchanges ((Backend.mk .horizons tools).run calls problem).notices)[k]? =
      some exchange) :
    (Backend.mk .horizons tools).EventAgrees calls problem k exchange := by
  obtain ⟨distance, records, q, hdistance, path, rfl, hlt, goes, rfl⟩ :=
    exists_path_of_flowExchange h
  have hloop := loop?_horizons tools problem
  have measured := measured_of_path hloop hdistance path
  refine .of_above htol rfl measured (Loop.continues_iff.1 goes).2 ?_
  intro trajectory y reached htrajectory hy hreached hfinite hwithin
  -- Every candidate at a finite distance is committed, and within the tolerance no other follows.
  have proposed : (problem.proposeByFlow (tools.integrator problem.flow) (calls + q.iteration)
      q.state q.step).result = .ok ⟨y, Scalar.undefined⟩ :=
    Problem.proposeByFlow_result_eq_ok_iff.2 ⟨trajectory, htrajectory, hy, rfl⟩
  obtain ⟨next, record, hstep, haccepted, rfl, rfl⟩ : ∃ next record,
      (problem.horizonLoop (tools.integrator problem.flow)).Step calls q next record ∧
        record.accepted = true ∧ next.state = y ∧ next.distance = reached :=
    ⟨_, _, .accept _ reached proposed hreached hfinite, rfl, rfl, rfl⟩
  have stops : (problem.horizonLoop (tools.integrator problem.flow)).continues next = false :=
    Loop.not_continues_iff.2 fun h => Scalar.Ordered.not_le_of_lt h.2 hwithin
  have hlength : (records ++ [record]).length ≤ iterationBudget problem.maxIterations := by
    rw [List.length_append]
    exact hlt
  have returns := (run_result_eq_ok_iff_of_loop? hloop).2
    ⟨distance, next, records ++ [record], hdistance, path.concat goes hstep, hlength, .inr stops,
      rfl⟩
  have hchained : Chained
      (fun k => problem.FlowLink (tools.integrator problem.flow) (calls + k)) problem.start
      (flowExchanges ((Backend.mk .horizons tools).run calls problem).notices) _ _ :=
    chained_of_loop? hloop flowExchanges_nil flowExchanges_append
      Progress.flowExchanges_closing Problem.flowLink_of_step returns
  refine ⟨⟨?_, fun o ho => ?_⟩, fun _ => ⟨_, returns⟩⟩
  · rw [hchained.1]
    exact List.length_append
  · cases returns.symm.trans ho
    exact ⟨List.length_append, ⟨record, List.getElem?_concat_length, haccepted⟩,
      decide_eq_true hwithin, rfl⟩

theorem eventAgrees_relaxation (htol : 0 < problem.tol)
    (h : (flowExchanges ((Backend.mk .relaxation tools).run calls problem).notices)[k]? =
      some exchange) :
    (Backend.mk .relaxation tools).EventAgrees calls problem k exchange := by
  obtain ⟨distance, hdistance, outside, rfl, rfl⟩ := Problem.of_flowExchanges_relax h
  have hdefined : Scalar.isNaN distance = false := (initialDistance_eq_ok_iff.1 hdistance).2
  have above : problem.tol < distance := by
    by_contra hnot
    exact outside (Scalar.Ordered.le_of_not_lt (Scalar.Ordered.isNaN_of_lt htol) hdefined hnot)
  refine .of_above htol rfl (candidateDistance_of_initialDistance hdistance) above ?_
  intro trajectory y reached htrajectory hy hreached hfinite hwithin
  refine ⟨⟨?_, fun o ho => ?_⟩, fun htime => ?_⟩
  · exact congrArg List.length (Problem.flowExchanges_relax_of_not_within hdistance outside)
  · obtain ⟨trajectory', y', reached', time, htrajectory', hy', hreached', -, rfl⟩ :=
      (Problem.relax_result_eq_ok_iff_of_not_within hdistance outside).1 ho
    cases htrajectory.symm.trans htrajectory'
    cases hy.symm.trans hy'
    cases hreached.symm.trans hreached'
    exact ⟨rfl, ⟨_, rfl, rfl⟩, decide_eq_true hwithin, rfl⟩
  · obtain ⟨time, htime⟩ := htime rfl
    exact ⟨_, (Problem.relax_result_eq_ok_iff_of_not_within hdistance outside).2
      ⟨trajectory, y, reached, time, htrajectory, hy, hreached, htime, rfl⟩⟩

end

/-- Wherever a search integrates from, the steady-state event has yet to fall there, and where an
integration ends with the event fallen, the search ends converged. An undefined residual never makes
the event fall; where it is not even a vector, there is no event. -/
theorem event_agrees {strategy : Strategy} {c : Config Exact} {r : Request Exact}
    {problem : Problem Exact} (created : Problem.create strategy c r = .ok problem)
    (integrates : strategy ≠ .pseudoTransient) (tools : Toolbox Exact) (calls : Nat) :
    let backend := Backend.mk strategy tools
    (∀ k exchange, (flowExchanges (backend.run calls problem).notices)[k]? = some exchange →
      backend.EventAgrees calls problem k exchange) ∧
    ∀ time y value, problem.residual y.atLeastVector = .ok value →
      value.entries.any Scalar.isNaN = true →
      (∃ v, steadyEvent problem.residual problem.tol time y = .ok v ∧ ¬ v ≤ 0) ∨
        1 < value.shape.length ∧
          steadyEvent problem.residual problem.tol time y = .error .notVector := by
  have htol : 0 < problem.tol := (Problem.inRange_of_create created).tol
  constructor
  · intro k exchange h
    cases strategy with
    | pseudoTransient => exact absurd rfl integrates
    | horizons => exact eventAgrees_horizons htol h
    | relaxation => exact eventAgrees_relaxation htol h
  · intro time y value hvalue undefined
    obtain haxes | haxes := le_or_gt value.shape.length 1
    · exact .inl ⟨Scalar.infinity,
        Exact.steadyEvent_of_isNaN hvalue undefined haxes problem.tol time,
        Exact.not_infinity_le nofun⟩
    · exact .inr ⟨haxes, Exact.steadyEvent_of_lt_length hvalue haxes problem.tol time⟩

/-- A single integration of the identity that ends at its zero. -/
theorem relaxed_event_agrees :
    let problem : Problem Exact := .identity .exact (.finite 1)
    let backend := Backend.mk .relaxation (.blind fun _ => .vector [.finite 0])
    ∃ exchange o, (flowExchanges (backend.run 0 problem).notices)[0]? = some exchange ∧
      backend.EventAgrees 0 problem 0 exchange ∧ (backend.run 0 problem).result = .ok o ∧
      (Result.ofOutcome problem o).converged = true := by
  intro problem backend
  have created : Problem.create .relaxation .exact (.identity (.finite 1)) = .ok problem :=
    Problem.create_identity .relaxation rfl _
  have hdistance : initialDistance problem = .ok (.finite 1) :=
    initialDistance_eq_ok_iff.2 ⟨Exact.residualDistance_identity zero_le_one, rfl⟩
  have outside : ¬ (Exact.finite 1) ≤ .finite 1e-9 := by
    rw [Exact.finite_le_finite]
    norm_num
  have hexchange : (flowExchanges (backend.run 0 problem).notices)[0]? = some _ :=
    congrArg (·[0]?) (Problem.flowExchanges_relax_of_not_within hdistance outside)
  have agrees := (event_agrees created (by decide) (.blind fun _ => .vector [.finite 0]) 0).1 0 _
    hexchange
  have hevent : steadyEvent problem.residual problem.tol 0 (.vector [.finite 0]) =
      .ok (.finite 0 - .finite (1 / 2 * 1e-9)) :=
    Exact.steadyEvent_finite_eq_ok_iff.2 ⟨.finite 0, candidateDistance_eq_ok_iff.2
      ⟨.finite 0, Exact.residualDistance_identity le_rfl, rfl⟩, rfl⟩
  have hfallen : Exact.finite 0 - .finite (1 / 2 * 1e-9) ≤ 0 := by
    rw [Exact.finite_sub_finite, Exact.zero_eq, Exact.finite_le_finite]
    norm_num
  obtain ⟨converges, returns⟩ := agrees.ends _ _ _ _ rfl rfl hevent hfallen
  obtain ⟨o, ho⟩ := returns fun _ => ⟨_, rfl⟩
  exact ⟨_, o, hexchange, agrees, ho, (converges.result o ho).2.2.1⟩

end Backend

end Equilibrium
