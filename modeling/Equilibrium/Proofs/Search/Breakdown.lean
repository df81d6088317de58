import Equilibrium.Inner.Solver
import Equilibrium.Proofs.Residual.SupNorm
import Equilibrium.Proofs.Scalar.Spacing
import Equilibrium.Proofs.Search.Guards
import Equilibrium.Proofs.Soundness

/-!
Inner solves that break down.

A numerical routine may end anywhere, with a residual that is infinite or undefined, or not end at
all. What the inner solver makes of it is folded into an answer whose distance is defined: a
breakdown counts as staying at the guess, infinitely far from a root, and so does a residual that is
not finite, except that the point is kept. No finite tolerance is met by an infinite distance, so an
iteration that is answered in this way rejects, and leaves the committed state as it is.

A rejected candidate is measured all the same. After a breakdown it is the committed state, which
has been measured before; after a residual that is not finite it is wherever the routine stopped,
and if the residual of the problem fails there, so does the iteration.
-/

namespace Equilibrium

open Scalar

variable {α : Type} [Scalar α]

/-! ### Replies -/

def Routine.outcome (routine : Routine α) (call : InnerCall α) :
    Except (Fault α) (RoutineAnswer α) :=
  routine (.of call.method call.guess.size call.tol call.maxIterations call.verbose) call

/-- A reply folds the outcome of a routine into an answer. -/
structure InnerReply.Folds (reply : InnerReply α) (call : InnerCall α)
    (outcome : Except (Fault α) (RoutineAnswer α)) : Prop where
  /-- A point of the size of the guess is answered in its shape, at the largest absolute value of
  the residual if that is finite, and infinitely far from a root if it is not. -/
  answered : ∀ answer, outcome = .ok answer → answer.point.size = call.guess.size →
    answer.residual ≠ [] →
    ∃ state distance, reply.outcome = .ok ⟨state, distance⟩ ∧
      state.shape = call.guess.shape ∧ state.entries = answer.point.entries ∧
      isNaN distance = false ∧ 0 ≤ distance ∧
      (answer.residual.all isFinite = true → IsLargest distance answer.residual) ∧
      (answer.residual.all isFinite = false → distance = infinity)
  broken : ∀ fault, outcome = .error fault → fault.isBreakdown = true →
    reply.outcome = .ok ⟨call.guess, infinity⟩
  escaped : ∀ fault, outcome = .error fault → fault.isBreakdown = false →
    reply.outcome = .error fault

variable {call : InnerCall α} {answer : RoutineAnswer α} {state : Tensor α} {fault : Fault α}

/-- A point of the right size is put into the shape of the guess. -/
theorem InnerReply.ofRoutine_of_answer (shape : state.shape = call.guess.shape)
    (entries : state.entries = answer.point.entries) :
    (InnerReply.ofRoutine call (.ok answer)).outcome = .ok ⟨state, supNorm answer.residual⟩ := by
  have hreshape : answer.point.reshape? call.guess.shape = some state := by
    rw [Tensor.reshape?, dif_pos (by rw [← entries, ← shape, state.length_entries])]
    exact congrArg some (Tensor.ext_iff_entries.2 ⟨shape.symm, entries.symm⟩)
  simp only [ofRoutine, hreshape]

theorem InnerReply.ofRoutine_of_breakdown (h : fault.isBreakdown = true) :
    (InnerReply.ofRoutine call (.error fault)).outcome = .ok ⟨call.guess, infinity⟩ := by
  simp only [ofRoutine, h, if_true]

/-- Where no Jacobian goes to a method that cannot use one, the routine is asked. -/
theorem InnerSolver.solve_ofRoutine {name : String} {routine : Routine α} {calls : Nat}
    (paired : call.jacobian.isSome = true → call.method.acceptsJacobian = true) :
    (InnerSolver.ofRoutine name routine).solve calls call =
      .ofRoutine call (Routine.outcome routine call) :=
  if_neg (by simpa using paired)

theorem InnerReply.folds [Lawful α] [Ordered α] [Spaced α] [Transitive α] [Sized α]
    (call : InnerCall α) (outcome : Except (Fault α) (RoutineAnswer α)) :
    (InnerReply.ofRoutine call outcome).Folds call outcome := by
  constructor
  case answered =>
    rintro answer rfl hsize hresidual
    have hlength : answer.point.entries.length = call.guess.shape.prod :=
      hsize.trans call.guess.length_entries
    obtain ⟨hdefined, hnonneg⟩ := supNorm_nonneg answer.residual
    refine ⟨⟨call.guess.shape, answer.point.entries, hlength⟩, supNorm answer.residual,
      ofRoutine_of_answer rfl rfl, rfl, rfl, hdefined, hnonneg, fun hfinite => ?_, fun h => ?_⟩
    · exact supNorm_isLargest hfinite hresidual
    · exact supNorm_of_not_finite h
  case broken =>
    rintro fault rfl h
    exact ofRoutine_of_breakdown h
  case escaped =>
    rintro fault rfl h
    simp only [ofRoutine, h, if_false, Bool.false_eq_true]

/-! ### Iterations -/

/-- An iteration dismisses a candidate at an infinite inner distance: it leaves a record of that,
and the committed state and its distance as they are. -/
structure Loop.Dismisses (loop : Loop α) (calls : Nat) (p next : Progress α) (record : Record α) :
    Prop where
  returns : (loop.iterate calls p).result = .ok (next, record)
  rejected : record.accepted = false
  infinite : record.innerDistance = infinity
  state : next.state = p.state
  distance : next.distance = p.distance

variable {loop : Loop α} {calls : Nat} {p : Progress α} {distance : α}

theorem Loop.exists_dismisses
    (proposed : (loop.propose (calls + p.iteration) p.state p.step).result =
      .ok ⟨state, infinity⟩)
    (measured : candidateDistance loop.residual state = .ok distance)
    (refuses : loop.admits infinity = false) (divides : (loop.law.backoff == 0) = false) :
    ∃ next record, loop.Dismisses calls p next record := by
  have discards : loop.commits ⟨state, infinity⟩ distance = false := by
    rw [commits, refuses, Bool.false_and]
  exact ⟨_, _, iterate_result_eq_ok_iff.2 (.reject _ distance proposed measured discards divides),
    rfl, rfl, rfl, rfl⟩

/-- A candidate that cannot be measured ends the iteration. -/
theorem Loop.iterate_of_unmeasured {candidate : Candidate α}
    (proposed : (loop.propose (calls + p.iteration) p.state p.step).result = .ok candidate)
    (unmeasured : candidateDistance loop.residual candidate.state = .error fault) :
    (loop.iterate calls p).result = .error fault := by
  rw [iterate, Traced.bind_result_of_ok proposed, unmeasured]
  rfl

variable {problem : Problem α} {c : Config α} {r : Request α} {tools : Toolbox α}

/-- The state that an iteration begins at has been measured. -/
theorem Backend.Begins.measured {backend : Backend α}
    (begins : backend.Begins calls problem loop p) : p.Measured problem.residual := by
  obtain ⟨hloop, distance, records, hdistance, path, -⟩ := begins
  exact measured_of_path hloop hdistance path

/-- A Jacobian goes along with a step only to a method that can use it. -/
theorem Problem.Takes.acceptsJacobian {x : Tensor α} {step : α} {plan : InnerPlan α}
    (created : Problem.create .pseudoTransient c r = .ok problem)
    (takes : problem.Takes tools calls x step plan)
    (hcall : problem.implicitCall plan x step = .ok call) (hsome : call.jacobian.isSome = true) :
    call.method.acceptsJacobian = true := by
  obtain ⟨G, J, -, hJ, rfl⟩ := stepCall_eq_ok_iff.1 hcall
  obtain ⟨hmethod, hderivative⟩ := takes.plan_eq
  change plan.method.acceptsJacobian = true
  rw [hmethod]
  refine acceptsJacobian_of_create created ?_
  rw [← hderivative]
  exact (stepJacobian_isSome_iff hJ).1 hsome

/-- An iteration whose inner solver is made of a routine proposes what the reply to the routine's
outcome says. -/
theorem Backend.Begins.proposes {name : String} {routine : Routine α}
    {integrator : FlowMethod α → Integrator α} {inner : InnerAnswer α}
    (created : Problem.create .pseudoTransient c r = .ok problem)
    (begins : (Backend.mk .pseudoTransient ⟨.ofRoutine name routine, integrator⟩).Begins calls
      problem loop p)
    (hcall : problem.implicitCall problem.innerPlan p.state p.step = .ok call)
    (answers : (InnerReply.ofRoutine call (Routine.outcome routine call)).outcome = .ok inner)
    (shape : inner.state.shape = p.state.shape) :
    (loop.propose (calls + p.iteration) p.state p.step).result =
      .ok ⟨inner.state, inner.distance⟩ := by
  have takes := Problem.Takes.loop begins
  obtain ⟨-, -, rfl⟩ | ⟨hs, -⟩ := loop?_eq_some_iff.1 begins.1
  · refine Problem.propose_result_eq_ok_iff.2 ⟨call, inner, hcall, ?_, shape, rfl⟩
    rw [InnerSolver.solve_ofRoutine (takes.acceptsJacobian created hcall), answers]
  · cases hs

theorem Problem.guess_of_implicitCall {plan : InnerPlan α} {x : Tensor α} {step : α}
    (hcall : problem.implicitCall plan x step = .ok call) : call.guess = x := by
  obtain ⟨G, J, -, -, rfl⟩ := stepCall_eq_ok_iff.1 hcall
  rfl

variable [Ordered α]

/-- An infinite inner distance is above a finite tolerance, and a rejection can be divided by its
factor. -/
theorem Backend.Begins.refuses [Sized α]
    (created : Problem.create .pseudoTransient c r = .ok problem)
    (finite : isFinite problem.innerTol = true)
    (begins : (Backend.mk .pseudoTransient tools).Begins calls problem loop p) :
    loop.admits infinity = false ∧ (loop.law.backoff == 0) = false := by
  have hbackoff : 1 < problem.backoff := (Problem.inRange_of_create created).backoff
  obtain ⟨-, -, rfl⟩ | ⟨hs, -⟩ := loop?_eq_some_iff.1 begins.1
  · exact ⟨decide_eq_false (Ordered.not_le_of_lt (Sized.lt_infinity finite)),
      Ordered.beq_zero_of_one_lt hbackoff⟩
  · cases hs

/-- Whatever a routine does, its outcome is folded into a reply. If it breaks down in an iteration
of a loop with a finite inner tolerance, the iteration dismisses the candidate. If it stops with a
residual that is not finite, the iteration dismisses the point where it stopped, provided that the
point can be measured; that it cannot is then what becomes of the iteration. -/
theorem InnerSolver.breaks_cleanly [Lawful α] [Spaced α] [Transitive α] [Sized α] (name : String)
    (routine : Routine α) :
    (∀ (calls : Nat) (call : InnerCall α),
      (call.jacobian.isSome = true → call.method.acceptsJacobian = true) →
        ((InnerSolver.ofRoutine name routine).solve calls call).Folds call
          (Routine.outcome routine call)) ∧
    ∀ (c : Config α) (r : Request α) (problem : Problem α)
      (integrator : FlowMethod α → Integrator α) (calls : Nat) (loop : Loop α) (p : Progress α),
      Problem.create .pseudoTransient c r = .ok problem → isFinite problem.innerTol = true →
      (Backend.mk .pseudoTransient ⟨.ofRoutine name routine, integrator⟩).Begins calls problem loop
        p →
      ∃ call, problem.implicitCall problem.innerPlan p.state p.step = .ok call ∧
        call.guess = p.state ∧
        (∀ fault, Routine.outcome routine call = .error fault → fault.isBreakdown = true →
          ∃ next record, loop.Dismisses calls p next record) ∧
        ∀ answer state, Routine.outcome routine call = .ok answer →
          state.shape = p.state.shape → state.entries = answer.point.entries →
          answer.residual.all isFinite = false →
          (∀ distance, candidateDistance problem.residual state = .ok distance →
            ∃ next record, loop.Dismisses calls p next record) ∧
          ∀ fault, candidateDistance problem.residual state = .error fault →
            (loop.iterate calls p).result = .error fault := by
  refine ⟨fun calls call paired => ?_, ?_⟩
  · rw [solve_ofRoutine paired]
    exact InnerReply.folds call _
  intro c r problem integrator calls loop p created finite begins
  obtain ⟨call, hcall⟩ :=
    (Problem.unguarded created _ calls).called _ _ _ (Problem.Takes.loop begins)
  have hguess : call.guess = p.state := Problem.guess_of_implicitCall hcall
  obtain ⟨refuses, divides⟩ := begins.refuses created finite
  have hresidual : loop.residual = problem.residual := Backend.residual_of_loop? begins.1
  refine ⟨call, hcall, hguess, fun fault hfault hbreakdown => ?_,
    fun answer state hanswer shape entries hinfinite => ?_⟩
  · -- The candidate is the committed state.
    have answers : (InnerReply.ofRoutine call (Routine.outcome routine call)).outcome =
        .ok ⟨p.state, infinity⟩ := by
      rw [hfault, InnerReply.ofRoutine_of_breakdown hbreakdown, hguess]
    have proposed := begins.proposes created hcall answers rfl
    have measured : candidateDistance loop.residual p.state = .ok p.distance := by
      rw [hresidual]
      exact begins.measured
    exact Loop.exists_dismisses proposed measured refuses divides
  · have answers : (InnerReply.ofRoutine call (Routine.outcome routine call)).outcome =
        .ok ⟨state, infinity⟩ := by
      have hshape : state.shape = call.guess.shape := by rw [hguess, shape]
      rw [hanswer, InnerReply.ofRoutine_of_answer hshape entries, supNorm_of_not_finite hinfinite]
    have proposed := begins.proposes created hcall answers shape
    rw [← hresidual]
    exact ⟨fun distance measured => Loop.exists_dismisses proposed measured refuses divides,
      fun fault unmeasured => Loop.iterate_of_unmeasured proposed unmeasured⟩

/-! ### The identity above zero -/

def Routine.always (outcome : Except (Fault α) (RoutineAnswer α)) : Routine α := fun _ _ => outcome

/-- The identity where no component is below zero. Elsewhere it fails. -/
def halfLine : Field Float := fun y =>
  if y.entries.all (0 ≤ ·) then .ok y
  else .error (.signalled (.other "ValueError") "undefined below zero")

def RoutineAnswer.overflowed (x : Float) : RoutineAnswer Float :=
  ⟨.vector [x], [infinity], false, 1⟩

def Problem.halfLine : Problem Float :=
  .assemble .double Equilibrium.halfLine (.vector [1]) [false] (some unitMatrix)

theorem Problem.create_halfLine :
    Problem.create .pseudoTransient .double
      ⟨.function Equilibrium.halfLine, .ok (.vector [1]), .absent, .function unitMatrix⟩ =
      .ok .halfLine :=
  create_single .pseudoTransient (by decide +kernel) (if_pos (by decide +kernel)) rfl

/-- The search above zero comes to a first iteration. -/
theorem Problem.exists_begins_halfLine (tools : Toolbox Float) :
    ∃ distance, (Backend.mk .pseudoTransient tools).Begins 0 .halfLine
      (Problem.halfLine.pseudoTransientLoop tools.solver)
      (.start (.vector [1]) Problem.halfLine.step distance) := by
  obtain ⟨distance, hdistance, above⟩ := exists_ok_of_toOption
    (r := initialDistance Problem.halfLine) (f := fun d => decide (Problem.halfLine.tol < d))
    (c := true) (by decide +kernel)
  have hloop : (Backend.mk .pseudoTransient tools).loop? .halfLine =
      some (Problem.halfLine.pseudoTransientLoop tools.solver) :=
    Backend.loop?_pseudoTransient tools (by decide +kernel)
  exact ⟨distance, Backend.begins_first hloop hdistance (by decide) (by decide +kernel)
    (of_decide_eq_true above)⟩

def InnerSolver.always (outcome : Except (Fault Float) (RoutineAnswer Float)) : InnerSolver Float :=
  .ofRoutine "prepared" (.always outcome)

/-- A breakdown is answered with the guess and dismissed by the first iteration. An overflow at one
half, where the residual can be measured, is dismissed as well. -/
theorem InnerSolver.halfLine_breaks_cleanly :
    let broken := InnerSolver.always (.error (.signalled .singular "Singular matrix"))
    let overflowed := InnerSolver.always (.ok (.overflowed 0.5))
    (∀ call : InnerCall Float, call.jacobian = none →
      (broken.solve 0 call).outcome = .ok ⟨call.guess, infinity⟩) ∧
    (∃ p next record, (Problem.halfLine.pseudoTransientLoop broken).Dismisses 0 p next record) ∧
    ∃ p next record,
      (Problem.halfLine.pseudoTransientLoop overflowed).Dismisses 0 p next record := by
  intro broken overflowed
  obtain ⟨hfolds, hbroken⟩ := breaks_cleanly "prepared"
    (Routine.always (.error (.signalled .singular "Singular matrix") :
      Except (Fault Float) (RoutineAnswer Float)))
  obtain ⟨-, hoverflowed⟩ := breaks_cleanly "prepared"
    (Routine.always (.ok (.overflowed 0.5) : Except (Fault Float) (RoutineAnswer Float)))
  refine ⟨fun call hcall => (hfolds 0 call (by simp [hcall])).broken _ rfl rfl, ?_, ?_⟩
  · obtain ⟨distance, begins⟩ := Problem.exists_begins_halfLine ⟨broken, fun _ => .prepared []⟩
    obtain ⟨call, -, -, hdismisses, -⟩ := hbroken _ _ _ _ 0 _ _ Problem.create_halfLine
      (by decide +kernel) begins
    exact ⟨_, hdismisses _ rfl rfl⟩
  · obtain ⟨distance, begins⟩ :=
      Problem.exists_begins_halfLine ⟨overflowed, fun _ => .prepared []⟩
    obtain ⟨call, -, -, -, hdismisses⟩ := hoverflowed _ _ _ _ 0 _ _ Problem.create_halfLine
      (by decide +kernel) begins
    obtain ⟨d, measured, -⟩ := exists_ok_of_toOption
      (r := candidateDistance Problem.halfLine.residual (.vector [0.5]))
      (f := fun d => isNaN d) (c := false) (by decide +kernel)
    have overflows : (RoutineAnswer.overflowed 0.5).residual.all isFinite = false := by
      decide +kernel
    have shape (x y : Float) : (Tensor.vector [x]).shape = (Tensor.vector [y]).shape := rfl
    exact ⟨_, (hdismisses (.overflowed 0.5) (.vector [0.5]) rfl (shape 0.5 1) rfl overflows).1 d
      measured⟩

/-- An overflow below zero is not: what the residual says there is what becomes of the iteration,
although the state where it begins has a distance. -/
theorem InnerSolver.halfLine_escapes :
    let overflowed := InnerSolver.always (.ok (.overflowed (-1)))
    let loop := Problem.halfLine.pseudoTransientLoop overflowed
    ∃ p : Progress Float, Problem.create .pseudoTransient .double
        ⟨.function halfLine, .ok (.vector [1]), .absent, .function unitMatrix⟩ = .ok .halfLine ∧
      isFinite Problem.halfLine.innerTol = true ∧
      (Backend.mk .pseudoTransient ⟨overflowed, fun _ => .prepared []⟩).Begins 0 .halfLine loop p ∧
      candidateDistance halfLine p.state = .ok p.distance ∧
      (loop.iterate 0 p).result =
        .error (.signalled (.other "ValueError") "undefined below zero") ∧
      ¬ ∃ next record, loop.Dismisses 0 p next record := by
  intro overflowed loop
  obtain ⟨distance, begins⟩ :=
    Problem.exists_begins_halfLine ⟨overflowed, fun _ => .prepared []⟩
  have escapes : (loop.iterate 0 (.start (.vector [1]) Problem.halfLine.step distance)).result =
      .error (.signalled (.other "ValueError") "undefined below zero") := by
    obtain ⟨call, hcall⟩ := (Problem.unguarded Problem.create_halfLine _ 0).called _ _ _
      (Problem.Takes.loop begins)
    have hguess : call.guess = .vector [1] := Problem.guess_of_implicitCall hcall
    have overflows : (RoutineAnswer.overflowed (-1)).residual.all isFinite = false := by
      decide +kernel
    have answers : (InnerReply.ofRoutine call (Routine.outcome
        (.always (.ok (.overflowed (-1)))) call)).outcome = .ok ⟨.vector [-1], infinity⟩ := by
      rw [← supNorm_of_not_finite overflows]
      exact InnerReply.ofRoutine_of_answer (by rw [hguess]; rfl) rfl
    have below : halfLine (.vector [-1]) =
        .error (.signalled (.other "ValueError") "undefined below zero") :=
      if_neg (by decide +kernel)
    refine Loop.iterate_of_unmeasured
      (begins.proposes Problem.create_halfLine hcall answers rfl) ?_
    change candidateDistance halfLine (.vector [-1]) = _
    rw [candidateDistance, residualDistance, Tensor.atLeastVector_vector, below]
    rfl
  refine ⟨_, Problem.create_halfLine, by decide +kernel, begins, begins.measured, escapes, ?_⟩
  rintro ⟨next, record, dismisses⟩
  have returns := dismisses.returns
  rw [escapes] at returns
  cases returns

end Equilibrium
