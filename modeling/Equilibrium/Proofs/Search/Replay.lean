import Equilibrium.Proofs.Search.Backend
import Equilibrium.Proofs.Search.Identity

/-!
The history replays the search.

The law of the step looks at nothing of a candidate but its distance and whether it was committed.
Both stand in the candidate's record, so the two columns of the history, read in order from the
first step and the distance of the initial state, tell every step, every coefficient and the last
distance again. The recurrence is written out here without a word about the loop; that the loop
follows it is a statement about single iterations, carried along the path of the search.
-/

namespace Equilibrium

variable {α : Type} [Scalar α]

/-- What the law of the step goes by. -/
structure Trail (α : Type) where
  step : α
  coef : α
  distance : α

namespace Trail

/-- The trail after an iteration whose candidate has the given distance and was committed or not. -/
def next (law : StepLaw α) (t : Trail α) : α × Bool → Trail α
  | (distance, true) =>
    let coef := if distance ≤ t.distance then law.scale * t.coef else 1
    { step :=
        if distance == 0 then law.ceiling
        else Scalar.capped law.ceiling (t.step * coef * t.distance / distance)
      coef := coef
      distance := distance }
  | (_, false) => { step := t.step / law.backoff, coef := 1, distance := t.distance }

def after (law : StepLaw α) (t : Trail α) (columns : List (α × Bool)) : Trail α :=
  columns.foldl (next law) t

end Trail

def Record.column (r : Record α) : α × Bool := (r.distance, r.accepted)

def Progress.trail (p : Progress α) : Trail α := ⟨p.step, p.coef, p.distance⟩

namespace Loop

variable {loop : Loop α} {calls : Nat} {p next last : Progress α} {record : Record α}
  {records : List (Record α)}

theorem Step.trail_eq (h : loop.Step calls p next record) :
    next.trail = p.trail.next loop.law record.column := by
  cases h with
  | accept => rfl
  | reject => rfl

/-- A record tells the number of its iteration, the step that was tried and the coefficient that
came out of it. -/
theorem Step.record_eq (h : loop.Step calls p next record) :
    record.iteration = p.iteration + 1 ∧ record.step = p.trail.step ∧
      record.coef = next.trail.coef := by
  cases h with
  | accept => exact ⟨rfl, rfl, rfl⟩
  | reject => exact ⟨rfl, rfl, rfl⟩

theorem Path.trail_eq (path : loop.Path calls p records last) :
    last.trail = p.trail.after loop.law (records.map Record.column) := by
  induction path with
  | stop p => rfl
  | step goes first rest ih =>
      rw [ih, first.trail_eq]
      rfl

theorem Path.record_eq (path : loop.Path calls p records last) {k : Nat} (hk : k < records.length) :
    records[k].iteration = p.iteration + k + 1 ∧
      records[k].step =
        (p.trail.after loop.law ((records.map Record.column).take k)).step ∧
      records[k].coef =
        (p.trail.after loop.law ((records.map Record.column).take (k + 1))).coef := by
  obtain ⟨q, next, before, goes, hstep, -⟩ := path.cut hk
  obtain ⟨hiteration, hstepSize, hcoef⟩ := hstep.record_eq
  -- The iteration of record `k` begins where the first `k` records lead and ends one record later.
  have hq : q.trail = p.trail.after loop.law ((records.map Record.column).take k) := by
    rw [before.trail_eq, List.map_take]
  have hnext : next.trail = p.trail.after loop.law ((records.map Record.column).take (k + 1)) := by
    rw [hstep.trail_eq, hq, List.take_succ_eq_append_getElem (by simpa using hk), List.getElem_map]
    simp [Trail.after]
  refine ⟨?_, ?_, ?_⟩
  · rw [hiteration, before.iteration_of_take (Nat.le_of_lt hk)]
    omega
  · rw [hstepSize, hq]
  · rw [hcoef, hnext]

end Loop

variable {backend : Backend α} {problem : Problem α} {calls : Nat} {o : Outcome α}

/-- The steps, the coefficients, the last step and the last distance of a search that loops are
those of the recurrence over the distances and flags in its history. -/
theorem Backend.history_replays (loops : (backend.loop? problem).isSome)
    (returns : (backend.run calls problem).result = .ok o) :
    let result := Result.ofOutcome problem o
    let columns := result.history.map Record.column
    ∃ distance, residualDistance problem.residual problem.start = .ok distance ∧
      let trail := fun k => Trail.after problem.stepLaw ⟨problem.step, 1, distance⟩ (columns.take k)
      (∀ k (hk : k < result.history.length),
        result.history[k].iteration = k + 1 ∧
          result.history[k].step = (trail k).step ∧
          result.history[k].coef = (trail (k + 1)).coef) ∧
        result.finalStep = (trail result.history.length).step ∧
        result.distance = (trail result.history.length).distance := by
  obtain ⟨loop, hloop⟩ := Option.isSome_iff_exists.1 loops
  obtain ⟨distance, last, records, hdistance, path, -, -, rfl⟩ :=
    (run_result_eq_ok_iff_of_loop? hloop).1 returns
  rw [← law_of_loop? hloop]
  refine ⟨distance, (initialDistance_eq_ok_iff.1 hdistance).1, fun k hk => ?_, ?_⟩
  · obtain ⟨hiteration, hstep, hcoef⟩ := path.record_eq hk
    have hstart : ((Progress.start problem.start problem.step distance).iteration : Int) = 0 := rfl
    rw [hstart, Int.zero_add] at hiteration
    exact ⟨hiteration, hstep, hcoef⟩
  · have hall : (records.map Record.column).take records.length = records.map Record.column :=
      List.take_of_length_le (Nat.le_of_eq (List.length_map _))
    have hlast : last.trail = (Progress.start problem.start problem.step distance).trail.after
        loop.law ((records.map Record.column).take records.length) := by
      rw [hall, path.trail_eq]
    exact ⟨congrArg Trail.step hlast, congrArg Trail.distance hlast⟩

theorem Backend.trial_replays :
    ∃ o, ((Backend.mk .pseudoTransient .trial).run 0 (.identity .double 1)).result = .ok o ∧
      let problem : Problem Float := .identity .double 1
      let result := Result.ofOutcome problem o
      let columns := result.history.map Record.column
      result.history.map Record.accepted = [false, true, true] ∧
      ∃ distance, residualDistance problem.residual problem.start = .ok distance ∧
        let trail := fun k =>
          Trail.after problem.stepLaw ⟨problem.step, 1, distance⟩ (columns.take k)
        (∀ k (hk : k < result.history.length),
          result.history[k].iteration = k + 1 ∧
            result.history[k].step = (trail k).step ∧
            result.history[k].coef = (trail (k + 1)).coef) ∧
          result.finalStep = (trail result.history.length).step ∧
          result.distance = (trail result.history.length).distance := by
  obtain ⟨o, returns, hflags⟩ := trial_returns .pseudoTransient (by decide)
  obtain ⟨loop, hloop⟩ := exists_loop? ⟨.pseudoTransient, .trial⟩ (.identity .double 1) (by decide)
    (by decide +kernel)
  exact ⟨o, returns, hflags, history_replays (Option.isSome_of_eq_some hloop) returns⟩

end Equilibrium
