import Equilibrium.Proofs.Trace
import Equilibrium.Search.Loop

/-!
The outer loop as a relation.

What one iteration can do is said once, in `Loop.Step`: it commits its candidate or it discards it,
and in either case the relation holds all that the iteration looked at. A path is a chain of such
iterations, each begun where the loop goes on. `Loop.run_result_eq_ok_iff` says that the loop
returns exactly along the paths that end at one of its exits, and `Loop.mem_run_notices` that
whatever a run makes known, even one that fails later, comes from an iteration that begins at the
end of a path. An invariant of the loop is therefore a statement about `Loop.Step`, carried along by
`Loop.Path.invariant`.
-/

namespace Equilibrium

variable {α : Type} [Scalar α] {loop : Loop α} {calls : Nat} {p q next last : Progress α}
  {record : Record α} {records : List (Record α)}

namespace Loop

theorem continues_iff :
    loop.continues p = true ↔ loop.stepMin ≤ p.step ∧ loop.tol < p.distance := by
  rw [continues, Bool.and_eq_true, decide_eq_true_eq, decide_eq_true_eq]

theorem not_continues_iff :
    loop.continues p = false ↔ ¬ (loop.stepMin ≤ p.step ∧ loop.tol < p.distance) := by
  rw [← Bool.not_eq_true, continues_iff]

def commits (loop : Loop α) (candidate : Candidate α) (distance : α) : Bool :=
  loop.admits candidate.innerDistance && Scalar.isFinite distance

/-- One iteration from `p` leads to another progress and leaves a record. -/
inductive Step (loop : Loop α) (calls : Nat) (p : Progress α) : Progress α → Record α → Prop
  | accept (candidate : Candidate α) (distance : α)
      (proposed : (loop.propose (calls + p.iteration) p.state p.step).result = .ok candidate)
      (measured : candidateDistance loop.residual candidate.state = .ok distance)
      (commits : loop.commits candidate distance = true) :
      Step loop calls p (loop.law.accept p.begun candidate.state distance)
        ⟨p.iteration + 1, p.step, distance, candidate.innerDistance,
          loop.law.compound p.coef p.distance distance, true⟩
  | reject (candidate : Candidate α) (distance : α)
      (proposed : (loop.propose (calls + p.iteration) p.state p.step).result = .ok candidate)
      (measured : candidateDistance loop.residual candidate.state = .ok distance)
      (discards : loop.commits candidate distance = false)
      (divides : (loop.law.backoff == 0) = false) :
      Step loop calls p
        { p with
          step := p.step / loop.law.backoff
          coef := 1
          iteration := p.iteration + 1
          rejected := p.rejected + 1 }
        ⟨p.iteration + 1, p.step, distance, candidate.innerDistance, 1, false⟩

theorem iterate_result_eq_ok_iff :
    (loop.iterate calls p).result = .ok (next, record) ↔ loop.Step calls p next record := by
  simp only [iterate, Traced.bind_result_eq_ok_iff, Traced.lift_eq, Traced.tell_eq,
    Traced.pure_eq, Except.ok.injEq, Prod.mk.injEq]
  constructor
  · rintro ⟨c, hc, d, hd, settled, hsettled, -, -, rfl, rfl⟩
    cases hcommit : loop.commits c d with
    | true =>
        simp only [commits] at hcommit
        simp only [StepLaw.settle, hcommit, if_true, Except.ok.injEq] at hsettled
        subst hsettled
        simp only [hcommit]
        exact .accept c d hc hd hcommit
    | false =>
        simp only [commits] at hcommit
        cases hzero : loop.law.backoff == 0 with
        | true => simp [StepLaw.settle, StepLaw.reject, hcommit, hzero] at hsettled
        | false =>
            simp only [StepLaw.settle, StepLaw.reject, hcommit, hzero, Bool.false_eq_true,
              if_false, Except.ok.injEq] at hsettled
            subst hsettled
            simp only [hcommit]
            exact .reject c d hc hd hcommit hzero
  · intro h
    cases h with
    | accept c d hc hd hcommit =>
        refine ⟨c, hc, d, hd, loop.law.accept p.begun c.state d, ?_, (), trivial, rfl, ?_⟩
        · exact if_pos hcommit
        · simp only [commits] at hcommit
          rw [hcommit]
          rfl
    | reject c d hc hd hdiscard hzero =>
        simp only [commits] at hdiscard
        refine ⟨c, hc, d, hd, _, ?_, (), trivial, rfl, ?_⟩
        · simp only [StepLaw.settle, StepLaw.reject, hdiscard, hzero, Bool.false_eq_true, if_false]
          rfl
        · rw [hdiscard]
          rfl

/-- A completed iteration makes known what its proposal did, and then its own two notices. -/
theorem iterate_notices (h : (loop.iterate calls p).result = .ok (next, record)) :
    (loop.iterate calls p).notices =
      (loop.propose (calls + p.iteration) p.state p.step).notices ++ loop.notices next record := by
  unfold iterate at h ⊢
  obtain ⟨c, hc, h⟩ := Traced.bind_result_eq_ok_iff.1 h
  rw [Traced.bind_notices_of_ok hc]
  obtain ⟨d, hd, h⟩ := Traced.bind_result_eq_ok_iff.1 h
  rw [Traced.bind_notices_of_ok hd]
  obtain ⟨settled, hsettled, h⟩ := Traced.bind_result_eq_ok_iff.1 h
  rw [Traced.bind_notices_of_ok hsettled]
  simp only [Traced.tell_eq, Traced.bind_ok, Traced.pure_eq, Except.ok.injEq, Prod.mk.injEq] at h ⊢
  obtain ⟨rfl, rfl⟩ := h
  simp

/-- An iteration that fails makes known what its proposal did, and nothing more. -/
theorem iterate_notices_of_error {fault : Fault α}
    (h : (loop.iterate calls p).result = .error fault) :
    (loop.iterate calls p).notices =
      (loop.propose (calls + p.iteration) p.state p.step).notices := by
  unfold iterate at h ⊢
  cases hc : (loop.propose (calls + p.iteration) p.state p.step).result with
  | error _ => exact Traced.bind_notices_of_error hc
  | ok c =>
      rw [Traced.bind_result_of_ok hc] at h
      rw [Traced.bind_notices_of_ok hc]
      refine (congrArg _ ?_).trans (List.append_nil _)
      cases hd : candidateDistance loop.residual c.state with
      | error _ => rfl
      | ok d =>
          rw [hd, Traced.lift_eq, Traced.bind_ok] at h
          cases hsettled : loop.law.settle p.begun
            (loop.admits c.innerDistance && Scalar.isFinite d) c.state d with
          | error _ => simp [hsettled]
          | ok next => simp [hsettled] at h

/-- An iteration makes known what its proposal did, and perhaps its own two notices. -/
theorem mem_iterate_notices {n : Notice α} (h : n ∈ (loop.iterate calls p).notices) :
    n ∈ (loop.propose (calls + p.iteration) p.state p.step).notices ∨
      ∃ next record, n ∈ loop.notices next record := by
  rw [iterate, Traced.mem_bind_notices_iff] at h
  obtain h | ⟨c, -, h⟩ := h
  · exact .inl h
  · right
    simp only [Traced.mem_bind_notices_iff, Traced.lift_eq, Traced.tell_eq, Traced.pure_eq,
      List.not_mem_nil, false_or, or_false, and_false, exists_false] at h
    obtain ⟨d, -, next, -, h⟩ := h
    exact ⟨_, _, h⟩

/-- What every iteration has in common: a candidate was proposed and measured, the record tells
whether it was committed, and the committed state changes only if it was. -/
theorem Step.settled (h : loop.Step calls p next record) :
    ∃ candidate distance,
      (loop.propose (calls + p.iteration) p.state p.step).result = .ok candidate ∧
        candidateDistance loop.residual candidate.state = .ok distance ∧
        record.step = p.step ∧ record.distance = distance ∧
        record.innerDistance = candidate.innerDistance ∧
        record.accepted = loop.commits candidate distance ∧
        next.state = (if record.accepted then candidate.state else p.state) ∧
        next.distance = if record.accepted then distance else p.distance := by
  cases h with
  | accept candidate distance proposed measured commits =>
      exact ⟨candidate, distance, proposed, measured, rfl, rfl, rfl, commits.symm, rfl, rfl⟩
  | reject candidate distance proposed measured discards divides =>
      exact ⟨candidate, distance, proposed, measured, rfl, rfl, rfl, discards.symm, rfl, rfl⟩

/-- An iteration is completed if its candidate is proposed and measured, and a rejection has
something to divide by. -/
theorem Step.exists_of_measured {candidate : Candidate α} {distance : α}
    (proposed : (loop.propose (calls + p.iteration) p.state p.step).result = .ok candidate)
    (measured : candidateDistance loop.residual candidate.state = .ok distance)
    (divides : (loop.law.backoff == 0) = false) : ∃ next record, loop.Step calls p next record := by
  cases hcommits : loop.commits candidate distance with
  | true => exact ⟨_, _, .accept candidate distance proposed measured hcommits⟩
  | false => exact ⟨_, _, .reject candidate distance proposed measured hcommits divides⟩

/-! ### Paths -/

/-- A chain of iterations, each begun where the loop goes on, with the records they leave. -/
inductive Path (loop : Loop α) (calls : Nat) :
    Progress α → List (Record α) → Progress α → Prop
  | stop (p : Progress α) : Path loop calls p [] p
  | step {p next last : Progress α} {record : Record α} {records : List (Record α)}
      (goes : loop.continues p = true) (first : loop.Step calls p next record)
      (rest : Path loop calls next records last) : Path loop calls p (record :: records) last

/-- What every iteration of the loop preserves holds all along a path. -/
theorem Path.invariant {I : Progress α → Prop}
    (preserved : ∀ {p next record}, I p → loop.continues p = true → loop.Step calls p next record →
      I next)
    (path : loop.Path calls p records last) (initial : I p) : I last := by
  induction path with
  | stop p => exact initial
  | step goes first rest ih => exact ih (preserved initial goes first)

/-- A path is cut at any of its records, by the iteration that left it. -/
theorem Path.cut (path : loop.Path calls p records last) {k : Nat} (hk : k < records.length) :
    ∃ q next, loop.Path calls p (records.take k) q ∧ loop.continues q = true ∧
      loop.Step calls q next records[k] ∧ loop.Path calls next (records.drop (k + 1)) last := by
  -- Either the first iteration left the record, or the cut lies in the rest of the path.
  induction path generalizing k with
  | stop p => simp at hk
  | @step p next last record records goes first rest ih =>
      cases k with
      | zero => exact ⟨p, next, .stop p, goes, first, rest⟩
      | succ k =>
          obtain ⟨q, next', before, hq, hstep, after⟩ := ih (Nat.lt_of_succ_lt_succ hk)
          exact ⟨q, next', .step goes first before, hq, hstep, after⟩

/-- One more iteration after a path. -/
theorem Path.concat (path : loop.Path calls p records q) (goes : loop.continues q = true)
    (hstep : loop.Step calls q next record) : loop.Path calls p (records ++ [record]) next := by
  induction path with
  | stop p => exact .step goes hstep (.stop next)
  | step goes' first rest ih => exact .step goes' first (ih goes hstep)

/-- The last record of a path was left by the last of its iterations. -/
theorem Path.of_concat (path : loop.Path calls p (records ++ [record]) last) :
    ∃ q, loop.Path calls p records q ∧ loop.continues q = true ∧ loop.Step calls q last record := by
  obtain ⟨q, next, before, goes, hstep, after⟩ := path.cut (k := records.length) (by simp)
  rw [List.take_left] at before
  rw [List.getElem_concat_length rfl] at hstep
  rw [List.drop_of_length_le (by simp)] at after
  cases after
  exact ⟨q, before, goes, hstep⟩

/-- A path ends where it begins, or where an iteration leads that it comes to. -/
theorem Path.eq_or_step (path : loop.Path calls p records last) :
    last = p ∨ ∃ earlier q record, loop.Path calls p earlier q ∧
      earlier.length < records.length ∧ loop.continues q = true ∧
      loop.Step calls q last record := by
  induction path with
  | stop p => exact .inl rfl
  | @step p next last record records goes first rest ih =>
      right
      obtain rfl | ⟨earlier, q, record', before, hlt, hq, hlast⟩ := ih
      · exact ⟨[], p, record, .stop p, Nat.succ_pos _, goes, first⟩
      · exact ⟨record :: earlier, q, record', .step goes first before, Nat.succ_lt_succ hlt, hq,
          hlast⟩

theorem Step.iteration_eq (h : loop.Step calls p next record) :
    next.iteration = p.iteration + 1 := by
  cases h with
  | accept => rfl
  | reject => rfl

theorem Path.iteration_eq (path : loop.Path calls p records last) :
    last.iteration = p.iteration + records.length := by
  induction path with
  | stop p => rfl
  | step goes first rest ih =>
      rw [ih, first.iteration_eq, List.length_cons]
      omega

/-- Where a path is cut at the record of a place, so many iterations have begun before. -/
theorem Path.iteration_of_take {k : Nat} (before : loop.Path calls p (records.take k) q)
    (hk : k ≤ records.length) : q.iteration = p.iteration + k := by
  rw [before.iteration_eq, List.length_take_of_le hk]

/-- A path along which nothing is committed ends in the state where it begins. -/
theorem Path.state_eq (path : loop.Path calls p records last)
    (rejected : ∀ r ∈ records, r.accepted = false) : last.state = p.state := by
  induction path with
  | stop p => rfl
  | @step p next last record records goes first rest ih =>
      obtain ⟨candidate, distance, -, -, -, -, -, -, hstate, -⟩ := first.settled
      have hrecord : record.accepted = false := rejected record List.mem_cons_self
      rw [ih fun r hr => rejected r (List.mem_cons_of_mem record hr), hstate, hrecord]
      rfl

/-! ### Runs -/

theorem run_zero : loop.run calls 0 p = ⟨[], .ok (p, [])⟩ := rfl

theorem run_of_not_continues {budget : Nat} (h : loop.continues p = false) :
    loop.run calls budget p = ⟨[], .ok (p, [])⟩ := by
  cases budget with
  | zero => rfl
  | succ budget => simp [run, h]

theorem run_succ {budget : Nat} (h : loop.continues p = true) :
    loop.run calls (budget + 1) p = (do
      let (next, record) ← loop.iterate calls p
      let (last, records) ← loop.run calls budget next
      return (last, record :: records)) := by
  simp only [run, h, if_true]

theorem run_succ_result_eq_ok_iff {budget : Nat} (h : loop.continues p = true) :
    (loop.run calls (budget + 1) p).result = .ok (last, records) ↔
      ∃ next record rest, loop.Step calls p next record ∧
        (loop.run calls budget next).result = .ok (last, rest) ∧ records = record :: rest := by
  rw [run_succ h]
  simp only [Traced.bind_result_eq_ok_iff, Traced.pure_eq, Except.ok.injEq, Prod.exists,
    Prod.mk.injEq, iterate_result_eq_ok_iff]
  constructor
  · rintro ⟨next, record, hstep, last', rest, hrest, rfl, rfl⟩
    exact ⟨next, record, rest, hstep, hrest, rfl⟩
  · rintro ⟨next, record, rest, hstep, hrest, rfl⟩
    exact ⟨next, record, hstep, last, rest, hrest, rfl, rfl⟩

theorem run_succ_notices {budget : Nat} (goes : loop.continues p = true)
    (first : loop.Step calls p next record) :
    (loop.run calls (budget + 1) p).notices =
      (loop.iterate calls p).notices ++ (loop.run calls budget next).notices := by
  rw [run_succ goes, Traced.bind_notices_of_ok (iterate_result_eq_ok_iff.2 first)]
  simp only
  rw [Traced.bind_notices_of_silent fun _ => rfl]

/-- Whatever comes of a run, its notices begin with those of its first iteration. -/
theorem exists_run_succ_notices {budget : Nat} (goes : loop.continues p = true) :
    ∃ later, (loop.run calls (budget + 1) p).notices = (loop.iterate calls p).notices ++ later := by
  rw [run_succ goes]
  exact Traced.exists_bind_notices _ _

/-- The loop returns exactly along the paths within its budget that end at one of its exits: the
budget is used up, or the loop does not go on. -/
theorem run_result_eq_ok_iff {budget : Nat} :
    (loop.run calls budget p).result = .ok (last, records) ↔
      loop.Path calls p records last ∧ records.length ≤ budget ∧
        (records.length = budget ∨ loop.continues last = false) := by
  -- By induction on the budget, which is what the loop recurses on: no iteration is left if the
  -- budget is empty or if the loop does not go on, and else path and run share their first one.
  induction budget generalizing p records with
  | zero =>
      simp only [run_zero, Except.ok.injEq, Prod.mk.injEq, Nat.le_zero, List.length_eq_zero_iff]
      constructor
      · rintro ⟨rfl, rfl⟩
        exact ⟨.stop p, rfl, .inl rfl⟩
      · rintro ⟨path, rfl, -⟩
        cases path
        exact ⟨rfl, rfl⟩
  | succ budget ih =>
      cases hgo : loop.continues p with
      | false =>
          simp only [run_of_not_continues hgo, Except.ok.injEq, Prod.mk.injEq]
          constructor
          · rintro ⟨rfl, rfl⟩
            exact ⟨.stop p, Nat.zero_le _, .inr hgo⟩
          · rintro ⟨path, -, -⟩
            cases path with
            | stop => exact ⟨rfl, rfl⟩
            | step goes first rest => simp [hgo] at goes
      | true =>
          rw [run_succ_result_eq_ok_iff hgo]
          constructor
          · rintro ⟨next, record, rest, hstep, hrest, rfl⟩
            obtain ⟨path, hle, hexit⟩ := ih.1 hrest
            refine ⟨.step hgo hstep path, Nat.succ_le_succ hle, ?_⟩
            exact hexit.imp_left (congrArg (· + 1))
          · rintro ⟨path, hle, hexit⟩
            cases path with
            | stop => simp [hgo] at hexit
            | step goes first rest =>
                refine ⟨_, _, _, first, ih.2 ⟨rest, Nat.le_of_succ_le_succ hle, ?_⟩, rfl⟩
                exact hexit.imp_left Nat.succ.inj

/-- A run returns if every iteration that it can come to is completed. -/
theorem run_returns {budget : Nat}
    (completes : ∀ {records q}, loop.Path calls p records q → records.length < budget →
      loop.continues q = true → ∃ next record, loop.Step calls q next record) :
    ∃ last records, (loop.run calls budget p).result = .ok (last, records) := by
  induction budget generalizing p with
  | zero => exact ⟨p, [], rfl⟩
  | succ budget ih =>
      cases hgo : loop.continues p with
      | false => exact ⟨p, [], by rw [run_of_not_continues hgo]⟩
      | true =>
          obtain ⟨next, record, hstep⟩ := completes (.stop p) (Nat.succ_pos _) hgo
          obtain ⟨last, rest, hrest⟩ := ih (p := next) fun path hlt hq =>
            completes (.step hgo hstep path) (Nat.succ_lt_succ hlt) hq
          exact ⟨last, record :: rest,
            (run_succ_result_eq_ok_iff hgo).2 ⟨next, record, rest, hstep, hrest, rfl⟩⟩

/-- A run fails with the first iteration that does. -/
theorem run_result_of_path {budget : Nat} {fault : Fault α} (path : loop.Path calls p records q)
    (hlt : records.length < budget) (goes : loop.continues q = true)
    (fails : (loop.iterate calls q).result = .error fault) :
    (loop.run calls budget p).result = .error fault := by
  induction path generalizing budget with
  | stop p =>
      obtain ⟨budget, rfl⟩ := Nat.exists_eq_succ_of_ne_zero (Nat.ne_zero_of_lt hlt)
      rw [run_succ goes, Traced.bind_result_of_error fails]
  | step goes' first rest ih =>
      obtain ⟨budget, rfl⟩ := Nat.exists_eq_succ_of_ne_zero (Nat.ne_zero_of_lt hlt)
      rw [run_succ goes', Traced.bind_result_of_ok (iterate_result_eq_ok_iff.2 first)]
      exact Traced.bind_result_of_error (ih (Nat.lt_of_succ_lt_succ hlt) goes fails)

/-- Whatever a run makes known comes from an iteration that begins at the end of a path. -/
theorem mem_run_notices {budget : Nat} {n : Notice α}
    (h : n ∈ (loop.run calls budget p).notices) :
    ∃ records q, loop.Path calls p records q ∧ records.length < budget ∧
      loop.continues q = true ∧ n ∈ (loop.iterate calls q).notices := by
  -- The path is built backwards: what the rest of the run tells of is one iteration further on.
  induction budget generalizing p with
  | zero => simp [run_zero] at h
  | succ budget ih =>
      cases hgo : loop.continues p with
      | false => simp [run_of_not_continues hgo] at h
      | true =>
          rw [run_succ hgo, Traced.mem_bind_notices_iff] at h
          rcases h with h | ⟨⟨next, record⟩, hstep, h⟩
          · exact ⟨[], p, .stop p, Nat.succ_pos _, hgo, h⟩
          · rw [Traced.mem_bind_notices_iff] at h
            rcases h with h | ⟨⟨last, records⟩, -, h⟩
            · obtain ⟨records, q, path, hlt, hq, hn⟩ := ih h
              exact ⟨record :: records, q, .step hgo (iterate_result_eq_ok_iff.1 hstep) path,
                Nat.succ_lt_succ hlt, hq, hn⟩
            · simp at h

end Loop

end Equilibrium
