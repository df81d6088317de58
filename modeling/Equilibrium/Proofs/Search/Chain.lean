import Equilibrium.Proofs.Residual.Distance
import Equilibrium.Proofs.Scalar.Double
import Equilibrium.Proofs.Search.Backend
import Equilibrium.Proofs.Search.Identity
import Equilibrium.Proofs.Search.Proposals

/-!
The chain of committed states.

A search that loops asks its collaborator once for each record, and each time it asks from the state
that the answers before it led to: the candidate becomes the next state if its iteration was
committed and is forgotten otherwise. The chain of states is what ties the calls to the records. It
is stated once for both ways of proposing, over the relation that links a call and its reply to the
record and to the states before and after, so that what is particular to a strategy is said of one
iteration only.
-/

namespace Equilibrium

variable {α ε : Type}

/-- Exchanges and records come in pairs, each linked to two neighbours in a chain of states. -/
def Chained (link : Nat → Tensor α → Tensor α → ε → Record α → Prop) (first : Tensor α)
    (exchanges : List ε) (records : List (Record α)) (last : Tensor α) : Prop :=
  exchanges.length = records.length ∧
    ∃ x : Nat → Tensor α, x 0 = first ∧ x records.length = last ∧
      ∀ k exchange record, exchanges[k]? = some exchange → records[k]? = some record →
        link k (x k) (x (k + 1)) exchange record

namespace Chained

variable {link : Nat → Tensor α → Tensor α → ε → Record α → Prop} {first next last : Tensor α}
  {exchange : ε} {exchanges : List ε} {record : Record α} {records : List (Record α)}

theorem nil (link : Nat → Tensor α → Tensor α → ε → Record α → Prop) (first : Tensor α) :
    Chained link first [] [] first :=
  ⟨rfl, fun _ => first, rfl, rfl, fun _ _ _ h => by simp at h⟩

theorem cons (head : link 0 first next exchange record)
    (tail : Chained (fun k => link (k + 1)) next exchanges records last) :
    Chained link first (exchange :: exchanges) (record :: records) last := by
  obtain ⟨hlength, x, hfirst, hlast, hlink⟩ := tail
  refine ⟨by simp [hlength], fun | 0 => first | k + 1 => x k, rfl, hlast, fun k e r he hr => ?_⟩
  cases k with
  | zero =>
      simp only [List.getElem?_cons_zero, Option.some.injEq] at he hr
      subst he hr
      rw [← hfirst] at head
      exact head
  | succ k => exact hlink k e r he hr

/-- Every exchange is linked to a record at its place. -/
theorem exists_link (h : Chained link first exchanges records last) {k : Nat}
    (hk : exchanges[k]? = some exchange) :
    ∃ x x' record, records[k]? = some record ∧ link k x x' exchange record := by
  obtain ⟨hlength, x, -, -, hlink⟩ := h
  obtain ⟨hlt, -⟩ := List.getElem?_eq_some_iff.1 hk
  rw [hlength] at hlt
  have hrecord : records[k]? = some records[k] := List.getElem?_eq_getElem hlt
  exact ⟨x k, x (k + 1), records[k], hrecord, hlink k exchange records[k] hk hrecord⟩

end Chained

variable [Scalar α]

/-- What one iteration exchanges is linked to its record, so what a run exchanges is chained. -/
theorem Loop.run_chained {loop : Loop α} {calls budget : Nat} {p last : Progress α}
    {records : List (Record α)} {exchanges : List (Notice α) → List ε}
    {link : Nat → Tensor α → Tensor α → ε → Record α → Prop}
    (none : exchanges [] = [])
    (append : ∀ ns ms, exchanges (ns ++ ms) = exchanges ns ++ exchanges ms)
    (once : ∀ {p next record}, loop.Step calls p next record →
      ∃ exchange, exchanges (loop.iterate calls p).notices = [exchange] ∧
        link p.iteration p.state next.state exchange record)
    (returns : (loop.run calls budget p).result = .ok (last, records)) :
    Chained (fun k => link (p.iteration + k)) p.state
      (exchanges (loop.run calls budget p).notices) records last.state := by
  induction budget generalizing p records with
  | zero =>
      cases returns
      rw [run_zero, none]
      exact .nil _ _
  | succ budget ih =>
      cases hgo : loop.continues p with
      | false =>
          rw [run_of_not_continues hgo] at returns ⊢
          cases returns
          rw [none]
          exact .nil _ _
      | true =>
          obtain ⟨next, record, rest, hstep, hrest, rfl⟩ :=
            (run_succ_result_eq_ok_iff hgo).1 returns
          obtain ⟨exchange, hexchange, hlink⟩ := once hstep
          rw [run_succ_notices hgo hstep, append, hexchange, List.singleton_append]
          refine .cons hlink ?_
          -- The tail counts its calls from the next iteration on, so its link is shifted by one.
          have htail := ih hrest
          rw [hstep.iteration_eq] at htail
          simpa only [Nat.add_assoc, Nat.add_comm 1] using htail

/-! ### The two strategies -/

/-- An iteration of pseudo-transient continuation after so many calls: what is asked of the inner
solver, and what its answer does to the record and to the committed state. -/
structure Problem.ImplicitLink (problem : Problem α) (solver : InnerSolver α) (calls : Nat)
    (x x' : Tensor α) (exchange : InnerCall α × InnerReply α) (record : Record α) : Prop where
  guess : exchange.1.guess = x
  residual : implicitResidual problem.residual x record.step (.ofMask problem.mask) =
    .ok exchange.1.residual
  plain : Scalar.isInf record.step = true → exchange.1.residual = problem.residual
  tol : exchange.1.tol = problem.innerTol
  maxIterations : exchange.1.maxIterations = problem.innerIterations
  jacobian : exchange.1.jacobian.isSome = true ↔ problem.derivative = .analytic
  reply : exchange.2 = solver.solve calls exchange.1
  /-- The answered state is committed exactly if it is within the inner tolerance at a finite
  distance. -/
  settled : ∃ answer distance, exchange.2.outcome = .ok answer ∧
    record.innerDistance = answer.distance ∧
    residualDistance problem.residual answer.state = .ok distance ∧
    (record.accepted = true ↔
      answer.distance ≤ problem.innerTol ∧ Scalar.isFinite distance = true) ∧
    (Scalar.isNaN answer.distance = true → record.accepted = false) ∧
    x' = if record.accepted then answer.state else x

/-- An iteration of continuation over horizons after so many calls: what is asked of the integrator,
and what its answer does to the record and to the committed state. -/
structure Problem.FlowLink (problem : Problem α) (integrator : Integrator α) (calls : Nat)
    (x x' : Tensor α) (exchange : FlowCall α × FlowReply α) (record : Record α) : Prop where
  residual : exchange.1.residual = problem.residual
  start : exchange.1.start = x
  span : exchange.1.span = (0, record.step)
  reply : exchange.2 = integrator.integrate calls exchange.1
  settled : ∃ trajectory candidate distance, exchange.2.outcome = .ok trajectory ∧
    trajectory.states.getLast? = some candidate ∧
    residualDistance problem.residual candidate = .ok distance ∧
    (record.accepted = true ↔ Scalar.isFinite distance = true) ∧
    x' = if record.accepted then candidate else x

namespace Problem

variable {problem : Problem α} {solver : InnerSolver α} {integrator : Integrator α} {calls : Nat}
  {p next : Progress α} {record : Record α}

variable [Scalar.Lawful α]

theorem implicitLink_of_step (h : (problem.pseudoTransientLoop solver).Step calls p next record) :
    ∃ exchange,
      innerExchanges ((problem.pseudoTransientLoop solver).iterate calls p).notices = [exchange] ∧
        problem.ImplicitLink solver (calls + p.iteration) p.state next.state exchange record := by
  obtain ⟨candidate, distance, proposed, measured, hstep, -, hinner, haccepted, hstate, -⟩ :=
    h.settled
  obtain ⟨call, answer, hcall, hanswer, -, rfl⟩ := propose_result_eq_ok_iff.1 proposed
  obtain ⟨d, hd, rfl⟩ := candidateDistance_eq_ok_iff.1 measured
  have haccepted : record.accepted = true ↔
      answer.distance ≤ problem.innerTol ∧ Scalar.isFinite d = true := by
    rw [haccepted]
    simp [Loop.commits, pseudoTransientLoop]
  refine ⟨(call, solver.solve (calls + p.iteration) call), ?_, ?_⟩
  · rw [Loop.iterate_notices (Loop.iterate_result_eq_ok_iff.2 h), innerExchanges_append]
    exact congrArg (· ++ []) (innerExchanges_propose hcall)
  · obtain ⟨G, J, hG, hJ, rfl⟩ := stepCall_eq_ok_iff.1 hcall
    rw [← hstep] at hG
    constructor
    case guess => rfl
    case residual => exact hG
    case plain =>
      intro hinf
      rw [implicitResidual_of_isUnregularized hinf] at hG
      cases hG
      rfl
    case tol => rfl
    case maxIterations => rfl
    case jacobian => exact stepJacobian_isSome_iff hJ
    case reply => rfl
    case settled =>
      refine ⟨answer, d, hanswer, hinner, hd, haccepted, fun hnan => ?_, hstate⟩
      rw [Bool.eq_false_iff, ne_eq, haccepted]
      exact fun h => Scalar.Lawful.not_le_of_isNaN _ hnan h.1

theorem flowLink_of_step (h : (problem.horizonLoop integrator).Step calls p next record) :
    ∃ exchange,
      flowExchanges ((problem.horizonLoop integrator).iterate calls p).notices = [exchange] ∧
        problem.FlowLink integrator (calls + p.iteration) p.state next.state exchange record := by
  obtain ⟨candidate, distance, proposed, measured, hstep, -, -, haccepted, hstate, -⟩ := h.settled
  obtain ⟨trajectory, htrajectory, hcandidate, -⟩ := proposeByFlow_result_eq_ok_iff.1 proposed
  obtain ⟨d, hd, rfl⟩ := candidateDistance_eq_ok_iff.1 measured
  have haccepted : record.accepted = true ↔ Scalar.isFinite d = true := by
    rw [haccepted]
    simp [Loop.commits, horizonLoop]
  refine ⟨(problem.flowCall p.state p.step,
    integrator.integrate (calls + p.iteration) (problem.flowCall p.state p.step)), ?_, ?_⟩
  · rw [Loop.iterate_notices (Loop.iterate_result_eq_ok_iff.2 h), flowExchanges_append]
    exact congrArg (· ++ []) flowExchanges_proposeByFlow
  · constructor
    case residual => rfl
    case start => rfl
    case span => exact congrArg (Prod.mk 0) hstep.symm
    case reply => rfl
    case settled =>
      exact ⟨trajectory, candidate.state, d, htrajectory, hcandidate, hd, haccepted, hstate⟩

end Problem

theorem Progress.innerExchanges_closing (p : Progress α) (tol : α) :
    innerExchanges (p.closing tol) = [] := by
  unfold closing
  split
  · rfl
  · rfl

theorem Progress.flowExchanges_closing (p : Progress α) (tol : α) :
    flowExchanges (p.closing tol) = [] := by
  unfold closing
  split
  · rfl
  · rfl

variable {backend : Backend α} {problem : Problem α} {calls : Nat} {o : Outcome α}

theorem Backend.chained_of_loop? {loop : Loop α} (h : backend.loop? problem = some loop)
    {exchanges : List (Notice α) → List ε}
    {link : Nat → Tensor α → Tensor α → ε → Record α → Prop}
    (none : exchanges [] = [])
    (append : ∀ ns ms, exchanges (ns ++ ms) = exchanges ns ++ exchanges ms)
    (closing : ∀ (p : Progress α) tol, exchanges (p.closing tol) = [])
    (once : ∀ {p next record}, loop.Step calls p next record →
      ∃ exchange, exchanges (loop.iterate calls p).notices = [exchange] ∧
        link p.iteration p.state next.state exchange record)
    (returns : (backend.run calls problem).result = .ok o) :
    Chained link problem.start (exchanges (backend.run calls problem).notices)
      (Result.ofOutcome problem o).history (Result.ofOutcome problem o).state := by
  obtain ⟨distance, last, records, hdistance, path, hle, hexit, rfl⟩ :=
    (run_result_eq_ok_iff_of_loop? h).1 returns
  have hrun := Loop.run_result_eq_ok_iff.2 ⟨path, hle, hexit⟩
  rw [run_notices_of_loop? h hdistance hrun, append, closing, List.append_nil]
  have hchain := Loop.run_chained none append once hrun
  have hfrom :
      (fun k => link ((Progress.start problem.start problem.step distance).iteration + k)) = link :=
    funext fun k => congrArg link (Nat.zero_add k)
  rw [hfrom] at hchain
  exact hchain

/-- A search that loops makes one call for each record, from the states that it committed one after
another; it ends in the last of them, which is the initial one if nothing was committed. -/
theorem Backend.calls_chain [Scalar.Lawful α]
    (returns : (backend.run calls problem).result = .ok o) :
    let result := Result.ofOutcome problem o
    let notices := (backend.run calls problem).notices
    (backend.strategy = .pseudoTransient → Scalar.isInf problem.step = false →
      Chained (fun k => problem.ImplicitLink backend.tools.solver (calls + k)) problem.start
        (innerExchanges notices) result.history result.state) ∧
    (backend.strategy = .horizons →
      Chained (fun k => problem.FlowLink (backend.tools.integrator problem.flow) (calls + k))
        problem.start (flowExchanges notices) result.history result.state) ∧
    ((backend.loop? problem).isSome → result.iterations = result.history.length ∧
      ((∀ r ∈ result.history, r.accepted = false) → result.state = problem.start)) := by
  refine ⟨fun hstrategy hfinite => ?_, fun hstrategy => ?_, fun hloops => ?_⟩
  · exact chained_of_loop? (loop?_eq_some_iff.2 (.inl ⟨hstrategy, hfinite, rfl⟩))
      innerExchanges_nil innerExchanges_append Progress.innerExchanges_closing
      Problem.implicitLink_of_step returns
  · exact chained_of_loop? (loop?_eq_some_iff.2 (.inr ⟨hstrategy, rfl⟩))
      flowExchanges_nil flowExchanges_append Progress.flowExchanges_closing
      Problem.flowLink_of_step returns
  · obtain ⟨loop, hloop⟩ := Option.isSome_iff_exists.1 hloops
    obtain ⟨distance, last, records, -, path, -, -, rfl⟩ :=
      (run_result_eq_ok_iff_of_loop? hloop).1 returns
    have hiteration : last.iteration = 0 + records.length := path.iteration_eq
    rw [Nat.zero_add] at hiteration
    exact ⟨congrArg Int.ofNat hiteration, path.state_eq⟩

theorem Backend.trial_chained :
    ∃ o, ((Backend.mk .pseudoTransient .trial).run 0 (.identity .double 1)).result = .ok o ∧
      let problem : Problem Float := .identity .double 1
      let result := Result.ofOutcome problem o
      let notices := ((Backend.mk .pseudoTransient .trial).run 0 problem).notices
      result.history.map Record.accepted = [false, true, true] ∧
      Chained (fun k => problem.ImplicitLink Toolbox.trial.solver (0 + k)) problem.start
        (innerExchanges notices) result.history result.state ∧
      result.iterations = result.history.length := by
  obtain ⟨o, returns, hflags⟩ := trial_returns .pseudoTransient (by decide)
  obtain ⟨loop, hloop⟩ := exists_loop? ⟨.pseudoTransient, .trial⟩ (.identity .double 1) (by decide)
    (by decide +kernel)
  obtain ⟨hchain, -, hcount⟩ := calls_chain returns
  exact ⟨o, returns, hflags, hchain rfl (by decide +kernel),
    (hcount (Option.isSome_of_eq_some hloop)).1⟩

end Equilibrium
