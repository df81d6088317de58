import Equilibrium.Proofs.Search.Calls
import Equilibrium.Proofs.Search.Replay
import Equilibrium.Proofs.Soundness

/-!
How searches end.

The outer loop is bounded by its guard alone: each iteration is counted before anything is tried,
and past the limit none begins. So turn follows turn only so often, whatever the collaborators
answer, and no search calls them more often than the limit allows.

A search that returns has counted what its history lists. One that loops has begun every iteration
with a step at or above the floor and a committed distance above the tolerance, so a distance within
the tolerance is committed by the last iteration only; and where it stopped, one of the three parts
of the guard had failed.
-/

namespace Equilibrium

variable {α : Type} [Scalar α] {loop : Loop α} {calls : Nat} {p next last : Progress α}
  {record : Record α} {records : List (Record α)}

/-! ### Termination -/

/-- One turn of the loop with its guard and nothing else to bound it: the limit is not passed, the
loop goes on, and the iteration leads on. -/
def Loop.Turn (loop : Loop α) (calls : Nat) (limit : Int) (p next : Progress α) : Prop :=
  p.iteration ≤ limit ∧ loop.continues p = true ∧
    ∃ record, (loop.iterate calls p).result = .ok (next, record)

/-- Whatever is proposed, turn follows turn only so often. -/
theorem Loop.wellFounded_turn (loop : Loop α) (calls : Nat) (limit : Int) :
    WellFounded fun next p => loop.Turn calls limit p next := by
  -- Each turn takes one from what is left up to the limit.
  refine Subrelation.wf ?_ (measure fun p : Progress α => (limit + 1 - p.iteration).toNat).wf
  rintro next p ⟨hlimit, -, record, hnext⟩
  have hiteration : next.iteration = p.iteration + 1 :=
    (Loop.iterate_result_eq_ok_iff.1 hnext).iteration_eq
  change (limit + 1 - next.iteration).toNat < (limit + 1 - p.iteration).toNat
  omega

/-! ### Counters -/

structure Result.Counted (result : Result α) : Prop where
  iterations : result.iterations = result.history.length
  settled : result.iterations = result.accepted + result.rejected
  accepted : result.accepted = result.history.countP Record.accepted
  numbered : ∀ k (hk : k < result.history.length), result.history[k].iteration = k + 1

namespace Loop

theorem Step.accepted_eq (h : loop.Step calls p next record) :
    next.accepted = p.accepted + record.accepted.toNat := by
  cases h with
  | accept => rfl
  | reject => rfl

theorem Step.settled_eq (h : loop.Step calls p next record) :
    next.accepted + next.rejected = p.accepted + p.rejected + 1 := by
  cases h with
  | accept => exact Nat.add_right_comm p.accepted 1 p.rejected
  | reject => rfl

theorem Path.accepted_eq (path : loop.Path calls p records last) :
    last.accepted = p.accepted + records.countP Record.accepted := by
  induction path with
  | stop p => rfl
  | @step p next last record records goes first rest ih =>
      rw [ih, first.accepted_eq, List.countP_cons]
      cases record.accepted with
      | true =>
          simp only [Bool.toNat_true, if_true]
          omega
      | false => simp

theorem Path.settled_eq (path : loop.Path calls p records last) :
    last.accepted + last.rejected = p.accepted + p.rejected + records.length := by
  induction path with
  | stop p => rfl
  | step goes first rest ih =>
      rw [ih, first.settled_eq, List.length_cons]
      omega

end Loop

variable {backend : Backend α} {problem : Problem α} {o : Outcome α}

theorem Loop.Path.counted {distance : α}
    (path : loop.Path calls (.start problem.start problem.step distance) records last) :
    (Result.ofOutcome problem (last.outcome problem.tol records)).Counted := by
  have hiteration : last.iteration = 0 + records.length := path.iteration_eq
  have hsettled : last.accepted + last.rejected = 0 + 0 + records.length := path.settled_eq
  have haccepted : last.accepted = 0 + records.countP Record.accepted := path.accepted_eq
  constructor
  case iterations =>
    change (last.iteration : Int) = records.length
    omega
  case settled =>
    change (last.iteration : Int) = last.accepted + last.rejected
    omega
  case accepted =>
    change (last.accepted : Int) = records.countP Record.accepted
    omega
  case numbered =>
    intro k hk
    have hrecord := (path.record_eq hk).1
    have hstart : ((Progress.start problem.start problem.step distance).iteration : Int) = 0 := rfl
    rwa [hstart, Int.zero_add] at hrecord

theorem Problem.solveDirectly_counted {solver : InnerSolver α}
    (h : (problem.solveDirectly solver calls).result = .ok o) :
    (Result.ofOutcome problem o).Counted := by
  unfold solveDirectly at h
  obtain ⟨answer, -, h⟩ := Traced.bind_result_eq_ok_iff.1 h
  cases h
  have hnumbered : ∀ k (hk : k < [problem.directRecord answer].length),
      ([problem.directRecord answer][k]).iteration = k + 1 := by
    intro k hk
    obtain rfl : k = 0 := Nat.lt_one_iff.1 hk
    rfl
  -- The one record is committed or not, and one of the two counters is one.
  by_cases haccepted : answer.innerDistance ≤ problem.tol
  · refine ⟨rfl, ?_, ?_, hnumbered⟩
    · simp [Result.ofOutcome, Progress.outcome, directProgress, haccepted]
    · simp [Result.ofOutcome, Progress.outcome, directProgress, directRecord, haccepted]
  · refine ⟨rfl, ?_, ?_, hnumbered⟩
    · simp [Result.ofOutcome, Progress.outcome, directProgress, haccepted]
    · simp [Result.ofOutcome, Progress.outcome, directProgress, directRecord, haccepted]

theorem Problem.relax_counted {integrator : Integrator α}
    (h : (problem.relax integrator calls).result = .ok o) :
    (Result.ofOutcome problem o).Counted := by
  unfold relax at h
  obtain ⟨distance, -, h⟩ := Traced.bind_result_eq_ok_iff.1 h
  split at h
  · cases h
    exact ⟨rfl, rfl, rfl, fun k hk => absurd hk (Nat.not_lt_zero k)⟩
  · obtain ⟨trajectory, -, h⟩ := Traced.bind_result_eq_ok_iff.1 h
    obtain ⟨state, -, h⟩ := Traced.bind_result_eq_ok_iff.1 h
    obtain ⟨reached, -, h⟩ := Traced.bind_result_eq_ok_iff.1 h
    obtain ⟨time, -, h⟩ := Traced.bind_result_eq_ok_iff.1 h
    cases h
    refine ⟨rfl, rfl, rfl, fun k hk => ?_⟩
    obtain rfl : k = 0 := Nat.lt_one_iff.1 hk
    rfl

/-! ### Exits -/

/-- The distance that is committed after some records, of those that began with the given one. -/
def committedDistance (first : α) (records : List (Record α)) : α :=
  records.foldl (fun distance r => if r.accepted then r.distance else distance) first

omit [Scalar α] in
theorem committedDistance_concat (first : α) (records : List (Record α)) (r : Record α) :
    committedDistance first (records ++ [r]) =
      if r.accepted then r.distance else committedDistance first records := by
  rw [committedDistance, List.foldl_append]
  rfl

theorem Loop.Path.distance_eq (path : loop.Path calls p records last) :
    last.distance = committedDistance p.distance records := by
  induction path with
  | stop p => rfl
  | @step p next last record records goes first rest ih =>
      obtain ⟨candidate, distance, -, -, -, hdistance, -, -, -, hnext⟩ := first.settled
      rw [ih, hnext, committedDistance, committedDistance, List.foldl_cons, hdistance]

/-- How a search that loops ends, if it starts from a distance. -/
structure Result.Ended (result : Result α) (problem : Problem α) (first : α) : Prop where
  budget : result.iterations ≤ problem.maxIterations + 1
  /-- An iteration begins with a step at or above the floor and a distance above the tolerance. -/
  begun : ∀ k (hk : k < result.history.length), problem.stepMin ≤ result.history[k].step ∧
    problem.tol < committedDistance first (result.history.take k)
  steady : ∀ k (hk : k < result.history.length), result.history[k].accepted = true →
    result.history[k].distance ≤ problem.tol → k + 1 = result.history.length
  exit : result.distance ≤ problem.tol ∨ result.iterations = problem.maxIterations + 1 ∨
    ¬ problem.stepMin ≤ result.finalStep

namespace Loop

theorem Path.begun (path : loop.Path calls p records last) {k : Nat} (hk : k < records.length) :
    loop.stepMin ≤ records[k].step ∧
      loop.tol < committedDistance p.distance (records.take k) := by
  obtain ⟨q, next, before, goes, hstep, -⟩ := path.cut hk
  obtain ⟨candidate, distance, -, -, hsize, -⟩ := hstep.settled
  rw [hsize, ← before.distance_eq]
  exact continues_iff.1 goes

variable [Scalar.Ordered α]

/-- After a committed distance within the tolerance no iteration begins. -/
theorem Path.steady (path : loop.Path calls p records last) {k : Nat} (hk : k < records.length)
    (accepted : records[k].accepted = true) (within : records[k].distance ≤ loop.tol) :
    k + 1 = records.length := by
  obtain hlt | hge := Nat.lt_or_ge (k + 1) records.length
  · have hnext : loop.tol < committedDistance p.distance (records.take (k + 1)) :=
      (path.begun hlt).2
    have hlast : committedDistance p.distance (records.take (k + 1)) = records[k].distance := by
      rw [List.take_succ_eq_append_getElem hk, committedDistance_concat, if_pos accepted]
    rw [hlast] at hnext
    exact absurd within (Scalar.Ordered.not_le_of_lt hnext)
  · exact Nat.le_antisymm hk hge

end Loop

variable [Scalar.Ordered α]

theorem Loop.exit_of_not_continues (defined : Scalar.isNaN p.distance = false)
    (tol : 0 < loop.tol) (stops : loop.continues p = false) :
    p.distance ≤ loop.tol ∨ ¬ loop.stepMin ≤ p.step := by
  rw [← Bool.not_eq_true, Loop.continues_iff, Decidable.not_and_iff_not_or_not] at stops
  obtain hstep | hdistance := stops
  · exact .inr hstep
  · exact .inl (Scalar.Ordered.le_of_not_lt (Scalar.Ordered.isNaN_of_lt tol) defined hdistance)

theorem Backend.ended_of_loop? [Scalar.Lawful α] {distance : α}
    (hloop : backend.loop? problem = some loop) (range : problem.settings.InRange)
    (hdistance : initialDistance problem = .ok distance)
    (path : loop.Path calls (.start problem.start problem.step distance) records last)
    (hle : records.length ≤ iterationBudget problem.maxIterations)
    (hexit : records.length = iterationBudget problem.maxIterations ∨ loop.continues last = false) :
    (Result.ofOutcome problem (last.outcome problem.tol records)).Ended problem distance := by
  have hmax : 0 ≤ problem.maxIterations := range.maxIterations
  have htol : 0 < problem.tol := range.tol
  have hbudget : (iterationBudget problem.maxIterations : Int) = problem.maxIterations + 1 := by
    unfold iterationBudget
    omega
  have hiteration : last.iteration = 0 + records.length := path.iteration_eq
  have hcount : (Result.ofOutcome problem (last.outcome problem.tol records)).iterations =
      records.length := congrArg Int.ofNat (hiteration.trans (Nat.zero_add _))
  rw [← tol_of_loop? hloop] at htol
  constructor
  case budget => omega
  case begun =>
    intro k hk
    rw [← stepMin_of_loop? hloop, ← tol_of_loop? hloop]
    exact path.begun hk
  case steady =>
    intro k hk
    rw [← tol_of_loop? hloop]
    exact path.steady hk
  case exit =>
    obtain hspent | hstops := hexit
    · exact .inr (.inl (by omega))
    · have hmeasured : last.Measured loop.residual := by
        refine path.invariant (fun hp _ hstep => hstep.measured hp) ?_
        rw [residual_of_loop? hloop]
        exact candidateDistance_of_initialDistance hdistance
      rw [← tol_of_loop? hloop, ← stepMin_of_loop? hloop]
      have hdefined : Scalar.isNaN last.distance = false :=
        (candidateDistance_nonneg hmeasured).1
      exact (Loop.exit_of_not_continues hdefined htol hstops).imp_right .inr

/-- Every search comes to an end: turn follows turn only so often, and collaborators are called no
more often than the limit allows. What it returns counts its iterations as its history does, and a
search that loops returns for one of three reasons. -/
theorem Backend.run_ends [Scalar.Lawful α] {strategy : Strategy} {c : Config α} {r : Request α}
    (created : Problem.create strategy c r = .ok problem) (backend : Backend α) (calls : Nat) :
    (∀ loop, backend.loop? problem = some loop →
      WellFounded fun next p => loop.Turn calls problem.maxIterations p next) ∧
    (callCount (backend.run calls problem).notices : Int) ≤ problem.maxIterations + 1 ∧
    ∀ o, (backend.run calls problem).result = .ok o →
      (Result.ofOutcome problem o).Counted ∧
      ((backend.loop? problem).isSome → ∃ first,
        residualDistance problem.residual problem.start = .ok first ∧
          (Result.ofOutcome problem o).Ended problem first) := by
  have range : problem.settings.InRange := Problem.inRange_of_create created
  refine ⟨fun loop _ => loop.wellFounded_turn calls problem.maxIterations, ?_, fun o returns => ?_⟩
  · have hcalls := backend.callsAtMost_run problem calls
    have hmax : 0 ≤ problem.maxIterations := range.maxIterations
    unfold Traced.CallsAtMost iterationBudget at hcalls
    omega
  · cases hloop : backend.loop? problem with
    | some loop =>
        obtain ⟨distance, last, records, hdistance, path, hle, hexit, rfl⟩ :=
          (run_result_eq_ok_iff_of_loop? hloop).1 returns
        exact ⟨path.counted, fun _ => ⟨distance, (initialDistance_eq_ok_iff.1 hdistance).1,
          ended_of_loop? hloop range hdistance path hle hexit⟩⟩
    | none =>
        refine ⟨?_, fun h => by cases h⟩
        rw [run] at returns
        cases hs : backend.strategy with
        | pseudoTransient =>
            have hinf : Scalar.isInf problem.step = true := by
              simpa [loop?, hs] using hloop
            simp only [hs, Problem.continuePseudoTransient, hinf, if_true] at returns
            obtain ⟨distance, -, returns⟩ := Traced.bind_result_eq_ok_iff.1 returns
            exact Problem.solveDirectly_counted returns
        | horizons => simp [loop?, hs] at hloop
        | relaxation =>
            simp only [hs] at returns
            exact Problem.relax_counted returns

theorem Backend.trial_ends :
    ∃ o, ((Backend.mk .pseudoTransient .trial).run 0 (.identity .double 1)).result = .ok o ∧
      let problem : Problem Float := .identity .double 1
      let result := Result.ofOutcome problem o
      result.history.map Record.accepted = [false, true, true] ∧ result.Counted ∧
      ∃ first, residualDistance problem.residual problem.start = .ok first ∧
        result.Ended problem first := by
  obtain ⟨o, returns, hflags⟩ := trial_returns .pseudoTransient (by decide)
  obtain ⟨loop, hloop⟩ := exists_loop? ⟨.pseudoTransient, .trial⟩ (.identity .double 1) (by decide)
    (by decide +kernel)
  have created : Problem.create .pseudoTransient .double (.identity 1) =
      .ok (.identity .double (1 : Float)) :=
    Problem.create_identity .pseudoTransient (by decide +kernel) 1
  obtain ⟨hcounted, hended⟩ := (run_ends created ⟨.pseudoTransient, .trial⟩ 0).2.2 o returns
  exact ⟨o, returns, hflags, hcounted, hended (Option.isSome_of_eq_some hloop)⟩

end Equilibrium
