import Equilibrium.Proofs.Search.Chain
import Equilibrium.Proofs.Search.Totality

/-!
The two loops in lockstep.

Pseudo-transient continuation and continuation over horizons are one loop with two ways of
proposing. If both are given the same states, and the inner solver is always within its tolerance,
they go through the same progresses iteration by iteration, whatever is committed or discarded on
the way and however the loop ends; they even fail together. All that tells them apart is the column
of inner distances in the history.

What the runs are given is said of what they exchange with their collaborators: reply after reply
carries the next state of one list. How the collaborators would answer otherwise is left open.
-/

namespace Equilibrium

/-! ### Scripts -/

/-- Exchange after exchange carries the next of some states. -/
def Scripted {α ε : Type} (carries : ε → Tensor α → Prop) (states : Nat → Tensor α)
    (exchanges : List ε) : Prop :=
  ∀ k exchange, exchanges[k]? = some exchange → carries exchange (states k)

namespace Scripted

variable {α ε : Type} {carries : ε → Tensor α → Prop} {states : Nat → Tensor α} {exchange : ε}
  {exchanges later : List ε}

theorem head (h : Scripted carries states (exchange :: exchanges)) : carries exchange (states 0) :=
  h 0 exchange rfl

theorem tail (h : Scripted carries states (exchange :: exchanges)) :
    Scripted carries (fun k => states (k + 1)) exchanges :=
  fun k e hk => h (k + 1) e hk

theorem of_append (h : Scripted carries states (exchanges ++ later)) :
    Scripted carries states exchanges := by
  intro k e hk
  obtain ⟨hlt, -⟩ := List.getElem?_eq_some_iff.1 hk
  exact h k e (by rw [List.getElem?_append_left hlt, hk])

end Scripted

def EndsIn {α : Type} (exchange : FlowCall α × FlowReply α) (y : Tensor α) : Prop :=
  ∃ trajectory, exchange.2.outcome = .ok trajectory ∧ trajectory.states.getLast? = some y

variable {α : Type} [Scalar α]

/-- The inner solver answers with a state, and within the inner tolerance. -/
def Problem.Admits (problem : Problem α) (exchange : InnerCall α × InnerReply α)
    (y : Tensor α) : Prop :=
  ∃ distance, exchange.2.outcome = .ok ⟨y, distance⟩ ∧ distance ≤ problem.innerTol

def Record.withoutInner (r : Record α) : Record α := { r with innerDistance := Scalar.undefined }

def Result.withoutInner (result : Result α) : Result α :=
  { result with history := result.history.map Record.withoutInner }

variable {problem : Problem α} {solver : InnerSolver α} {integrator : Integrator α}
  {calls calls' budget : Nat} {p next : Progress α} {states : Nat → Tensor α} {y : Tensor α}
  {record record' : Record α}

/-! ### One iteration -/

namespace Loop

variable {loop loop' : Loop α} {ε : Type} {exchanges : List (Notice α) → List ε} {exchange : ε}

def settled (loop : Loop α) (p : Progress α) (candidate : Candidate α) :
    Except (Fault α) (Progress α × Record α) := do
  let distance ← candidateDistance loop.residual candidate.state
  let commit := loop.commits candidate distance
  let next ← loop.law.settle p.begun commit candidate.state distance
  return (next, ⟨next.iteration, p.step, distance, candidate.innerDistance, next.coef, commit⟩)

theorem iterate_result_of_proposed {candidate : Candidate α}
    (proposed : (loop.propose (calls + p.iteration) p.state p.step).result = .ok candidate) :
    (loop.iterate calls p).result = loop.settled p candidate := by
  rw [iterate, Traced.bind_result_of_ok proposed]
  simp only [Traced.bind_result]
  rfl

/-- Loops that go by the same residual and the same law make the same of a state that both admit,
but for the inner distance in the record. -/
theorem settled_agree {inner : α} (residual : loop'.residual = loop.residual)
    (law : loop'.law = loop.law) (admits : loop.admits inner = true)
    (admits' : loop'.admits Scalar.undefined = true) :
    loop'.settled p ⟨y, Scalar.undefined⟩ =
      (loop.settled p ⟨y, inner⟩).map (Prod.map id Record.withoutInner) := by
  simp only [settled, commits, residual, law, admits, admits', Bool.true_and]
  cases candidateDistance loop.residual y with
  | error fault => rfl
  | ok d =>
      simp only [bind, Except.bind]
      cases loop.law.settle p.begun (Scalar.isFinite d) y d with
      | error fault => rfl
      | ok next => rfl

theorem run_succ_result (goes : loop.continues p = true) :
    (loop.run calls (budget + 1) p).result =
      (loop.iterate calls p).result >>= fun (next, record) =>
        (loop.run calls budget next).result.map (Prod.map id (record :: ·)) := by
  rw [run_succ goes, Traced.bind_result]
  refine congrArg _ (funext fun (next, record) => ?_)
  simp only [Traced.bind_result]
  cases (loop.run calls budget next).result with
  | error fault => rfl
  | ok ended => rfl

/-- What a run exchanges begins with what its first proposal exchanges, even if the run fails. -/
theorem exchanges_run_succ (loop : Loop α) (calls budget : Nat) (goes : loop.continues p = true)
    (append : ∀ ns ms, exchanges (ns ++ ms) = exchanges ns ++ exchanges ms)
    (once : exchanges (loop.propose (calls + p.iteration) p.state p.step).notices = [exchange]) :
    ∃ rest, exchanges (loop.run calls (budget + 1) p).notices = exchange :: rest := by
  obtain ⟨later, hlater⟩ : ∃ later, (loop.run calls (budget + 1) p).notices =
      (loop.iterate calls p).notices ++ later := exists_run_succ_notices goes
  obtain ⟨own, hown⟩ : ∃ own, (loop.iterate calls p).notices =
      (loop.propose (calls + p.iteration) p.state p.step).notices ++ own :=
    Traced.exists_bind_notices _ _
  refine ⟨exchanges own ++ exchanges later, ?_⟩
  rw [hlater, hown, append, append, once, List.append_assoc, List.singleton_append]

/-- If the first iteration is completed, the rest is what the run exchanges from there. -/
theorem exchanges_run_of_step (goes : loop.continues p = true)
    (append : ∀ ns ms, exchanges (ns ++ ms) = exchanges ns ++ exchanges ms)
    (own : exchanges (loop.notices next record) = [])
    (once : exchanges (loop.propose (calls + p.iteration) p.state p.step).notices = [exchange])
    (first : loop.Step calls p next record) :
    exchanges (loop.run calls (budget + 1) p).notices =
      exchange :: exchanges (loop.run calls budget next).notices := by
  rw [run_succ_notices goes first, iterate_notices (iterate_result_eq_ok_iff.2 first), append,
    append, once, own, List.append_nil, List.singleton_append]

end Loop

/-! ### Runs -/

/-- The two runs from a progress are given the same states. -/
structure Problem.SameScript (problem : Problem α) (solver : InnerSolver α)
    (integrator : Integrator α) (calls calls' budget : Nat) (states : Nat → Tensor α)
    (p : Progress α) : Prop where
  committed : p.state.shape = problem.start.shape
  shapes : ∀ k, (states k).shape = problem.start.shape
  answers : Scripted problem.Admits states
    (innerExchanges ((problem.pseudoTransientLoop solver).run calls budget p).notices)
  ends : Scripted EndsIn states
    (flowExchanges ((problem.horizonLoop integrator).run calls' budget p).notices)

namespace Problem.SameScript

theorem exists_call (script : problem.SameScript solver integrator calls calls' budget states p)
    (wellFormed : problem.WellFormed) :
    ∃ call, problem.implicitCall problem.innerPlan p.state p.step = .ok call :=
  exists_implicitCall wellFormed rfl script.committed

/-- Both loops are proposed the first state. -/
theorem proposed
    (script : problem.SameScript solver integrator calls calls' (budget + 1) states p)
    (wellFormed : problem.WellFormed)
    (goes : (problem.pseudoTransientLoop solver).continues p = true) :
    (∃ distance, distance ≤ problem.innerTol ∧
      ((problem.pseudoTransientLoop solver).propose (calls + p.iteration) p.state p.step).result =
        .ok ⟨states 0, distance⟩) ∧
    ((problem.horizonLoop integrator).propose (calls' + p.iteration) p.state p.step).result =
        .ok ⟨states 0, Scalar.undefined⟩ := by
  constructor
  · obtain ⟨call, hcall⟩ := script.exists_call wellFormed
    obtain ⟨rest, hrest⟩ := Loop.exchanges_run_succ _ calls budget goes innerExchanges_append
      (innerExchanges_propose hcall)
    have hanswers := script.answers
    rw [hrest] at hanswers
    obtain ⟨distance, hanswer, hwithin⟩ := hanswers.head
    have hshape : (states 0).shape = p.state.shape :=
      (script.shapes 0).trans script.committed.symm
    exact ⟨distance, hwithin, propose_result_eq_ok_iff.2 ⟨call, _, hcall, hanswer, hshape, rfl⟩⟩
  · obtain ⟨rest, hrest⟩ := Loop.exchanges_run_succ (problem.horizonLoop integrator) calls' budget
      goes flowExchanges_append flowExchanges_proposeByFlow
    have hends := script.ends
    rw [hrest] at hends
    obtain ⟨trajectory, htrajectory, hlast⟩ := hends.head
    exact proposeByFlow_result_eq_ok_iff.2 ⟨trajectory, htrajectory, hlast, rfl⟩

theorem iterate_agree
    (script : problem.SameScript solver integrator calls calls' (budget + 1) states p)
    (wellFormed : problem.WellFormed)
    (goes : (problem.pseudoTransientLoop solver).continues p = true) :
    ((problem.horizonLoop integrator).iterate calls' p).result =
      ((problem.pseudoTransientLoop solver).iterate calls p).result.map
        (Prod.map id Record.withoutInner) := by
  obtain ⟨⟨inner, hwithin, himplicit⟩, hflow⟩ := script.proposed wellFormed goes
  rw [Loop.iterate_result_of_proposed himplicit, Loop.iterate_result_of_proposed hflow]
  exact Loop.settled_agree rfl rfl (decide_eq_true hwithin) rfl

/-- From where an iteration leads, both runs are given the rest of the states. -/
theorem rest (script : problem.SameScript solver integrator calls calls' (budget + 1) states p)
    (wellFormed : problem.WellFormed)
    (goes : (problem.pseudoTransientLoop solver).continues p = true)
    (first : (problem.pseudoTransientLoop solver).Step calls p next record) :
    problem.SameScript solver integrator calls calls' budget (fun k => states (k + 1)) next := by
  constructor
  case committed =>
    obtain ⟨candidate, d, hproposed, -, -, -, -, -, hstate, -⟩ := first.settled
    obtain ⟨call, answer, -, -, hshape, rfl⟩ := propose_result_eq_ok_iff.1 hproposed
    rw [hstate]
    split
    · exact hshape.trans script.committed
    · exact script.committed
  case shapes => exact fun k => script.shapes (k + 1)
  case answers =>
    obtain ⟨call, hcall⟩ := script.exists_call wellFormed
    have hanswers := script.answers
    rw [Loop.exchanges_run_of_step goes innerExchanges_append rfl (innerExchanges_propose hcall)
      first] at hanswers
    exact hanswers.tail
  case ends =>
    have goes' : (problem.horizonLoop integrator).continues p = true := goes
    have hflow := script.iterate_agree wellFormed goes
    rw [Loop.iterate_result_eq_ok_iff.2 first] at hflow
    have hends := script.ends
    rw [Loop.exchanges_run_of_step goes' flowExchanges_append rfl flowExchanges_proposeByFlow
      (Loop.iterate_result_eq_ok_iff.1 hflow)] at hends
    exact hends.tail

/-- Runs that are given the same states are the same but for the inner distances. -/
theorem runs_agree (script : problem.SameScript solver integrator calls calls' budget states p)
    (wellFormed : problem.WellFormed) :
    ((problem.horizonLoop integrator).run calls' budget p).result =
      ((problem.pseudoTransientLoop solver).run calls budget p).result.map
        (Prod.map id (List.map Record.withoutInner)) := by
  -- By induction on the budget. Each iteration uses up the head of the script, so the rest of it is
  -- another script, from another progress.
  induction budget generalizing p states with
  | zero => rfl
  | succ budget ih =>
      cases goes : (problem.pseudoTransientLoop solver).continues p with
      | false =>
          have stops : (problem.horizonLoop integrator).continues p = false := goes
          rw [Loop.run_of_not_continues goes, Loop.run_of_not_continues stops]
          rfl
      | true =>
          have goes' : (problem.horizonLoop integrator).continues p = true := goes
          rw [Loop.run_succ_result goes, Loop.run_succ_result goes',
            script.iterate_agree wellFormed goes]
          cases hfirst : ((problem.pseudoTransientLoop solver).iterate calls p).result with
          | error fault => rfl
          | ok iterated =>
              obtain ⟨next, record⟩ := iterated
              have hnext := script.rest wellFormed goes (Loop.iterate_result_eq_ok_iff.1 hfirst)
              change ((problem.horizonLoop integrator).run calls' budget next).result.map _ =
                (((problem.pseudoTransientLoop solver).run calls budget next).result.map _).map _
              rw [ih hnext]
              cases ((problem.pseudoTransientLoop solver).run calls budget next).result with
              | error fault => rfl
              | ok ended => rfl

/-- Where the residual returns and a rejection has something to divide by, so do the runs. -/
theorem run_returns (script : problem.SameScript solver integrator calls calls' budget states p)
    (wellFormed : problem.WellFormed)
    (total : Total problem.residual [problem.start.leading] [problem.start.leading])
    (divides : (problem.backoff == 0) = false) :
    ∃ last records, ((problem.pseudoTransientLoop solver).run calls budget p).result =
      .ok (last, records) := by
  induction budget generalizing p states with
  | zero => exact ⟨p, [], rfl⟩
  | succ budget ih =>
      cases goes : (problem.pseudoTransientLoop solver).continues p with
      | false => exact ⟨p, [], by rw [Loop.run_of_not_continues goes]⟩
      | true =>
          obtain ⟨⟨inner, -, hproposed⟩, -⟩ := script.proposed wellFormed goes
          have hshape : (states 0).shape = [problem.start.leading] := by
            rw [script.shapes 0, wellFormed.start]
          obtain ⟨d, hmeasured⟩ := exists_candidateDistance total wellFormed.nonempty hshape
          obtain ⟨next, record, hfirst⟩ := Loop.Step.exists_of_measured hproposed hmeasured divides
          obtain ⟨last, records, hrest⟩ := ih (script.rest wellFormed goes hfirst)
          exact ⟨last, record :: records,
            (Loop.run_succ_result_eq_ok_iff goes).2 ⟨next, record, records, hfirst, hrest, rfl⟩⟩

end Problem.SameScript

/-! ### Searches -/

variable {backend : Backend α} {loop : Loop α} {tools tools' : Toolbox α}

namespace Backend

theorem run_result_of_loop? (h : backend.loop? problem = some loop) :
    (backend.run calls problem).result = initialDistance problem >>= fun distance =>
      (loop.run calls (iterationBudget problem.maxIterations)
        (.start problem.start problem.step distance)).result.map fun (last, records) =>
          last.outcome problem.tol records := by
  rw [run_of_loop? h, Traced.bind_result]
  refine congrArg _ (funext fun distance => ?_)
  rw [Loop.search, Traced.bind_result]
  cases (loop.run calls (iterationBudget problem.maxIterations)
    (.start problem.start problem.step distance)).result with
  | error fault => rfl
  | ok ended => rfl

/-- A search that loops makes known what its loop does first, even if it fails. -/
theorem exists_run_notices_of_loop? (h : backend.loop? problem = some loop) (calls : Nat)
    {distance : α} (hdistance : initialDistance problem = .ok distance) :
    ∃ later, (backend.run calls problem).notices =
      (loop.run calls (iterationBudget problem.maxIterations)
        (.start problem.start problem.step distance)).notices ++ later := by
  rw [run_of_loop? h, hdistance, Traced.lift_eq, Traced.bind_ok, List.nil_append, Loop.search]
  exact Traced.exists_bind_notices _ _

/-- Searches that are given the same states are given them by their loops. -/
theorem sameScript (finite : Scalar.isInf problem.step = false)
    {distance : α} (hdistance : initialDistance problem = .ok distance)
    (shapes : ∀ k, (states k).shape = problem.start.shape)
    (answers : Scripted problem.Admits states
      (innerExchanges ((Backend.mk .pseudoTransient tools).run calls problem).notices))
    (ends : Scripted EndsIn states
      (flowExchanges ((Backend.mk .horizons tools').run calls' problem).notices)) :
    problem.SameScript tools.solver (tools'.integrator problem.flow) calls calls'
      (iterationBudget problem.maxIterations) states
      (.start problem.start problem.step distance) := by
  obtain ⟨later, hlater⟩ :=
    exists_run_notices_of_loop? (loop?_pseudoTransient tools finite) calls hdistance
  obtain ⟨later', hlater'⟩ :=
    exists_run_notices_of_loop? (loop?_horizons tools' problem) calls' hdistance
  rw [hlater, innerExchanges_append] at answers
  rw [hlater', flowExchanges_append] at ends
  exact ⟨rfl, shapes, answers.of_append, ends.of_append⟩

/-- The two searches that loop are one search: whenever the one over horizons integrates to the
states that the inner solver gives the other one within its tolerance, they return the same result
but for the inner distances, or fail alike. Where the residual returns and the initial distance is
defined, they return. -/
theorem loops_agree [Scalar.Ordered α] {c : Config α} {r : Request α}
    (created : Problem.create .pseudoTransient c r = .ok problem)
    (finite : Scalar.isFinite problem.step = true) (differential : problem.mask.any id = false)
    (shapes : ∀ k, (states k).shape = problem.start.shape)
    (answers : Scripted problem.Admits states
      (innerExchanges ((Backend.mk .pseudoTransient tools).run calls problem).notices))
    (ends : Scripted EndsIn states
      (flowExchanges ((Backend.mk .horizons tools').run calls' problem).notices)) :
    Problem.create .horizons c r = .ok problem ∧
    ((Backend.mk .horizons tools').run calls' problem).result.map (Result.ofOutcome problem) =
      (((Backend.mk .pseudoTransient tools).run calls problem).result.map
        (Result.ofOutcome problem)).map Result.withoutInner ∧
    (Total problem.residual [problem.start.leading] [problem.start.leading] →
      (∀ first, residualDistance problem.residual problem.start = .ok first →
        Scalar.isNaN first = false) →
      ∃ o, ((Backend.mk .pseudoTransient tools).run calls problem).result = .ok o) := by
  have wellFormed : problem.WellFormed := Problem.wellFormed_of_create created
  have hinf : Scalar.isInf problem.step = false := Scalar.isInf_of_isFinite finite
  have himplicit := loop?_pseudoTransient tools hinf
  have hflow := loop?_horizons tools' problem
  refine ⟨?_, ?_, fun total defined => ?_⟩
  · refine Problem.create_of_check created ?_
    obtain ⟨F, jacobian, start, mask, rfl⟩ := Problem.exists_assemble created
    have hstep : Scalar.isFinite c.settings.step = true := finite
    have hmask : mask.any id = false := differential
    simp [Strategy.check, hstep, hmask, Problem.assemble]
  · rw [run_result_of_loop? himplicit, run_result_of_loop? hflow]
    cases hdistance : initialDistance problem with
    | error fault => rfl
    | ok distance =>
        have script := sameScript hinf hdistance shapes answers ends
        simp only [bind, Except.bind]
        rw [script.runs_agree wellFormed]
        cases ((problem.pseudoTransientLoop tools.solver).run calls
          (iterationBudget problem.maxIterations)
          (.start problem.start problem.step distance)).result with
        | error fault => rfl
        | ok ended => rfl
  · obtain ⟨first, hfirst⟩ := exists_residualDistance total wellFormed.nonempty wellFormed.start
    have hdistance : initialDistance problem = .ok first :=
      initialDistance_eq_ok_iff.2 ⟨hfirst, defined first hfirst⟩
    have script := sameScript hinf hdistance shapes answers ends
    have hbackoff : 1 < problem.backoff := (Problem.inRange_of_create created).backoff
    obtain ⟨last, records, hrun⟩ :=
      script.run_returns wellFormed total (Scalar.Ordered.beq_zero_of_one_lt hbackoff)
    rw [run_result_of_loop? himplicit, hdistance]
    exact ⟨last.outcome problem.tol records, by simp only [bind, Except.bind, hrun]; rfl⟩

end Backend

/-! ### A trial -/

def trialStates : Nat → Tensor Float
  | 0 => .vector [Scalar.infinity]
  | 1 => .vector [0.5]
  | _ => .vector [0]

theorem shape_trialStates (k : Nat) : (trialStates k).shape = [1] := by
  match k with
  | 0 => rfl
  | 1 => rfl
  | k + 2 => rfl

def Toolbox.contented : Toolbox Float where
  solver := .prepared "prepared" [.state (.vector [Scalar.infinity]) 0, .state (.vector [0.5]) 0,
    .state (.vector [0]) 0]
  integrator := Toolbox.trial.integrator

theorem preparedFor_trial {β : Type} (first second third : β) (k : Nat) :
    (preparedFor [first, second, third] k : Except (Fault Float) β) =
      .ok (match k with | 0 => first | 1 => second | _ => third) := by
  match k with
  | 0 => rfl
  | 1 => rfl
  | k + 2 => simp [preparedFor]

theorem Toolbox.solve_contented (k : Nat) (call : InnerCall Float) :
    (contented.solver.solve k call).outcome = .ok ⟨trialStates k, 0⟩ := by
  have hitem := preparedFor_trial (PreparedAnswer.state (.vector [Scalar.infinity]) 0)
    (.state (.vector [0.5]) 0) (.state (.vector [0]) (0 : Float)) k
  simp only [contented, InnerSolver.prepared, hitem]
  match k with
  | 0 => rfl
  | 1 => rfl
  | k + 2 => rfl

theorem Toolbox.integrate_contented (method : FlowMethod Float) (k : Nat) (call : FlowCall Float) :
    ∃ trajectory, ((contented.integrator method).integrate k call).outcome = .ok trajectory ∧
      trajectory.states.getLast? = some (trialStates k) := by
  have hitem := preparedFor_trial
    (PreparedFlow.trajectory ⟨[1], [.vector [Scalar.infinity]], 0, "", false⟩)
    (.trajectory ⟨[1], [.vector [0.5]], 0, "", false⟩)
    (.trajectory ⟨[(1 : Float)], [.vector [0]], 0, "", false⟩) k
  simp only [contented, trial, Integrator.prepared, hitem]
  match k with
  | 0 => exact ⟨_, rfl, rfl⟩
  | 1 => exact ⟨_, rfl, rfl⟩
  | k + 2 => exact ⟨_, rfl, rfl⟩

theorem Backend.contented_returns (strategy : Strategy) (loops : strategy ≠ .relaxation) :
    ∃ o, ((Backend.mk strategy .contented).run 0 (.identity .double 1)).result = .ok o ∧
      (Result.ofOutcome (.identity .double 1) o).history.map Record.accepted =
        [false, true, true] := by
  refine exists_ok_of_toOption ?_
  cases strategy with
  | pseudoTransient => decide +kernel
  | horizons => decide +kernel
  | relaxation => exact absurd rfl loops

theorem Backend.trial_loops_agree :
    ∃ o o', ((Backend.mk .pseudoTransient .contented).run 0 (.identity .double 1)).result = .ok o ∧
      ((Backend.mk .horizons .contented).run 0 (.identity .double 1)).result = .ok o' ∧
      (Result.ofOutcome (.identity .double 1) o').history.map Record.accepted =
        [false, true, true] ∧
      Result.ofOutcome (.identity .double 1) o' =
        (Result.ofOutcome (.identity .double 1) o).withoutInner := by
  obtain ⟨o, returns, -⟩ := contented_returns .pseudoTransient (by decide)
  obtain ⟨o', returns', hflags⟩ := contented_returns .horizons (by decide)
  have created : Problem.create .pseudoTransient .double (.identity 1) =
      .ok (.identity .double (1 : Float)) :=
    Problem.create_identity .pseudoTransient (by decide +kernel) 1
  have himplicit : Chained
      (fun k => (Problem.identity .double 1).ImplicitLink Toolbox.contented.solver (0 + k)) _
      (innerExchanges ((Backend.mk .pseudoTransient .contented).run 0
        (.identity .double 1)).notices) _ _ :=
    chained_of_loop? (loop?_pseudoTransient _ (by decide +kernel))
      innerExchanges_nil innerExchanges_append Progress.innerExchanges_closing
      Problem.implicitLink_of_step returns
  have hflow : Chained
      (fun k => (Problem.identity .double 1).FlowLink (Toolbox.contented.integrator _) (0 + k)) _
      (flowExchanges ((Backend.mk .horizons .contented).run 0 (.identity .double 1)).notices) _ _ :=
    chained_of_loop? (loop?_horizons _ _) flowExchanges_nil flowExchanges_append
      Progress.flowExchanges_closing Problem.flowLink_of_step returns'
  have answers : Scripted (Problem.identity .double (1 : Float)).Admits trialStates
      (innerExchanges ((Backend.mk .pseudoTransient .contented).run 0
        (.identity .double 1)).notices) := by
    intro k exchange hk
    obtain ⟨x, x', record, -, hlink⟩ := himplicit.exists_link hk
    refine ⟨0, ?_, by decide +kernel⟩
    rw [hlink.reply, Nat.zero_add, Toolbox.solve_contented]
  have ends : Scripted EndsIn trialStates
      (flowExchanges ((Backend.mk .horizons .contented).run 0
        (.identity .double (1 : Float))).notices) := by
    intro k exchange hk
    obtain ⟨x, x', record, -, hlink⟩ := hflow.exists_link hk
    rw [EndsIn, hlink.reply, Nat.zero_add]
    exact Toolbox.integrate_contented _ k exchange.1
  obtain ⟨-, hagree, -⟩ :=
    loops_agree created (by decide +kernel) rfl shape_trialStates answers ends
  rw [returns, returns'] at hagree
  exact ⟨o, o', returns, returns', hflags, Except.ok.inj hagree⟩

end Equilibrium
