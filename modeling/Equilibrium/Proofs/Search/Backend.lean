import Equilibrium.Proofs.Search.Path
import Equilibrium.Search.Backend

/-!
Searches that go round the outer loop.

Continuation over horizons always does, and pseudo-transient continuation does unless its first step
is infinite. Such a search is the path of its loop from the initial state: it fails where the
initial distance is undefined, and otherwise returns exactly along the paths that end at an exit.
The loops differ in how they propose and in what they admit; residual, law of the step, tolerance
and floor are the problem's own.
-/

namespace Equilibrium

variable {α : Type} [Scalar α] {backend : Backend α} {problem : Problem α} {calls : Nat}
  {loop : Loop α}

theorem initialDistance_eq_ok_iff {distance : α} :
    initialDistance problem = .ok distance ↔
      residualDistance problem.residual problem.start = .ok distance ∧
        Scalar.isNaN distance = false := by
  simp only [initialDistance, except_bind_eq_ok_iff, except_guard_eq_ok_iff, Bool.not_eq_true]
  constructor
  · rintro ⟨d, hd, hnan, h⟩
    cases h
    exact ⟨hd, hnan⟩
  · rintro ⟨hd, hnan⟩
    exact ⟨distance, hd, hnan, rfl⟩

theorem iterationBudget_pos {limit : Int} (h : 0 ≤ limit) : 0 < iterationBudget limit := by
  unfold iterationBudget
  omega

theorem one_lt_iterationBudget {limit : Int} (h : 0 < limit) : 1 < iterationBudget limit := by
  unfold iterationBudget
  omega

namespace Backend

/-- The loop that a backend searches a problem with, if it does so with one. -/
def loop? (backend : Backend α) (problem : Problem α) : Option (Loop α) :=
  match backend.strategy with
  | .pseudoTransient =>
    if Scalar.isInf problem.step then none
    else some (problem.pseudoTransientLoop backend.tools.solver)
  | .horizons => some (problem.horizonLoop (backend.tools.integrator problem.flow))
  | .relaxation => none

theorem loop?_eq_some_iff :
    backend.loop? problem = some loop ↔
      (backend.strategy = .pseudoTransient ∧ Scalar.isInf problem.step = false ∧
          loop = problem.pseudoTransientLoop backend.tools.solver) ∨
        (backend.strategy = .horizons ∧
          loop = problem.horizonLoop (backend.tools.integrator problem.flow)) := by
  cases hs : backend.strategy with
  | pseudoTransient =>
      cases hinf : Scalar.isInf problem.step with
      | true => simp [loop?, hs, hinf]
      | false => simp [loop?, hs, hinf, Eq.comm (b := loop)]
  | horizons => simp [loop?, hs, Eq.comm (b := loop)]
  | relaxation => simp [loop?, hs]

theorem loop?_pseudoTransient (tools : Toolbox α) (finite : Scalar.isInf problem.step = false) :
    (Backend.mk .pseudoTransient tools).loop? problem =
      some (problem.pseudoTransientLoop tools.solver) :=
  loop?_eq_some_iff.2 (.inl ⟨rfl, finite, rfl⟩)

theorem loop?_horizons (tools : Toolbox α) (problem : Problem α) :
    (Backend.mk .horizons tools).loop? problem =
      some (problem.horizonLoop (tools.integrator problem.flow)) :=
  rfl

theorem exists_loop? (backend : Backend α) (problem : Problem α)
    (loops : backend.strategy ≠ .relaxation) (hfinite : Scalar.isInf problem.step = false) :
    ∃ loop, backend.loop? problem = some loop := by
  cases hs : backend.strategy with
  | pseudoTransient => exact ⟨_, loop?_eq_some_iff.2 (.inl ⟨hs, hfinite, rfl⟩)⟩
  | horizons => exact ⟨_, loop?_eq_some_iff.2 (.inr ⟨hs, rfl⟩)⟩
  | relaxation => exact absurd hs loops

theorem loop?_eq_none_iff :
    backend.loop? problem = none ↔
      (backend.strategy = .pseudoTransient ∧ Scalar.isInf problem.step = true) ∨
        backend.strategy = .relaxation := by
  cases hs : backend.strategy with
  | pseudoTransient => simp [loop?, hs]
  | horizons => simp [loop?, hs]
  | relaxation => simp [loop?, hs]

/-- What does without a loop is a single integration, unless the first step is infinite. -/
theorem strategy_of_loop?_eq_none (h : backend.loop? problem = none)
    (finite : backend.strategy = .pseudoTransient → Scalar.isInf problem.step = false) :
    backend.strategy = .relaxation := by
  obtain ⟨hs, infinite⟩ | hs := loop?_eq_none_iff.1 h
  · exact absurd (finite hs) (Bool.not_eq_false _ ▸ infinite)
  · exact hs

theorem residual_of_loop? (h : backend.loop? problem = some loop) :
    loop.residual = problem.residual := by
  obtain ⟨-, -, rfl⟩ | ⟨-, rfl⟩ := loop?_eq_some_iff.1 h
  · rfl
  · rfl

theorem law_of_loop? (h : backend.loop? problem = some loop) : loop.law = problem.stepLaw := by
  obtain ⟨-, -, rfl⟩ | ⟨-, rfl⟩ := loop?_eq_some_iff.1 h
  · rfl
  · rfl

theorem tol_of_loop? (h : backend.loop? problem = some loop) : loop.tol = problem.tol := by
  obtain ⟨-, -, rfl⟩ | ⟨-, rfl⟩ := loop?_eq_some_iff.1 h
  · rfl
  · rfl

theorem stepMin_of_loop? (h : backend.loop? problem = some loop) :
    loop.stepMin = problem.stepMin := by
  obtain ⟨-, -, rfl⟩ | ⟨-, rfl⟩ := loop?_eq_some_iff.1 h
  · rfl
  · rfl

/-- Every search begins with the distance of its start, and nothing is done before. -/
theorem run_of_initialDistance (backend : Backend α) (calls : Nat) {fault : Fault α}
    (h : initialDistance problem = .error fault) :
    backend.run calls problem = ⟨[], .error fault⟩ := by
  unfold run
  cases backend.strategy with
  | pseudoTransient =>
      simp only [Problem.continuePseudoTransient, h, Traced.lift_eq, Traced.bind_error]
  | horizons => simp only [Problem.continueHorizons, h, Traced.lift_eq, Traced.bind_error]
  | relaxation => simp only [Problem.relax, h, Traced.lift_eq, Traced.bind_error]

theorem run_of_loop? (h : backend.loop? problem = some loop) :
    backend.run calls problem = (do
      let distance ← Traced.lift (initialDistance problem)
      loop.search calls problem distance) := by
  obtain ⟨hs, hinf, rfl⟩ | ⟨hs, rfl⟩ := loop?_eq_some_iff.1 h
  · simp [run, hs, Problem.continuePseudoTransient, hinf]
  · simp [run, hs, Problem.continueHorizons]

/-- A search that loops returns exactly along the paths that its budget allows and that end at an
exit, and what it returns is told by the end of the path and the records along it. -/
theorem run_result_eq_ok_iff_of_loop? (h : backend.loop? problem = some loop) {o : Outcome α} :
    (backend.run calls problem).result = .ok o ↔
      ∃ distance last records, initialDistance problem = .ok distance ∧
        loop.Path calls (.start problem.start problem.step distance) records last ∧
        records.length ≤ iterationBudget problem.maxIterations ∧
        (records.length = iterationBudget problem.maxIterations ∨ loop.continues last = false) ∧
        o = last.outcome problem.tol records := by
  simp only [run_of_loop? h, Loop.search, Progress.finish, Traced.bind_result_eq_ok_iff,
    Traced.lift_eq, Except.ok.injEq, Prod.exists, Loop.run_result_eq_ok_iff]
  constructor
  · rintro ⟨d, hd, last, records, ⟨path, hle, hexit⟩, rfl⟩
    exact ⟨d, last, records, hd, path, hle, hexit, rfl⟩
  · rintro ⟨d, last, records, hd, path, hle, hexit, rfl⟩
    exact ⟨d, hd, last, records, ⟨path, hle, hexit⟩, rfl⟩

/-- Such a search makes known what its loop does, and then how it ends. -/
theorem run_notices_of_loop? (h : backend.loop? problem = some loop) {distance : α}
    {last : Progress α} {records : List (Record α)} (hd : initialDistance problem = .ok distance)
    (returns : (loop.run calls (iterationBudget problem.maxIterations)
      (.start problem.start problem.step distance)).result = .ok (last, records)) :
    (backend.run calls problem).notices =
      (loop.run calls (iterationBudget problem.maxIterations)
        (.start problem.start problem.step distance)).notices ++ last.closing problem.tol := by
  rw [run_of_loop? h, hd, Traced.lift_eq, Traced.bind_ok, List.nil_append, Loop.search,
    Traced.bind_notices_of_ok returns]
  rfl

/-- Whatever such a search makes known, even if it fails later, comes from an iteration that its
loop begins or from its end. -/
theorem mem_run_notices_of_loop? (h : backend.loop? problem = some loop) {n : Notice α}
    (hn : n ∈ (backend.run calls problem).notices) :
    (∃ distance records q, initialDistance problem = .ok distance ∧
      loop.Path calls (.start problem.start problem.step distance) records q ∧
      records.length < iterationBudget problem.maxIterations ∧ loop.continues q = true ∧
      n ∈ (loop.iterate calls q).notices) ∨
    ∃ last : Progress α, n ∈ last.closing problem.tol := by
  rw [run_of_loop? h, Traced.mem_bind_notices_iff] at hn
  obtain hn | ⟨distance, hdistance, hn⟩ := hn
  · cases hn
  · rw [Loop.search, Traced.mem_bind_notices_iff] at hn
    obtain hn | ⟨⟨last, records⟩, -, hn⟩ := hn
    · obtain ⟨records, q, path, hlt, hgo, hn⟩ := Loop.mem_run_notices hn
      exact .inl ⟨distance, records, q, hdistance, path, hlt, hgo, hn⟩
    · exact .inr ⟨last, hn⟩

/-- The search comes to an iteration of its loop that begins at `p`, whatever becomes of it. -/
def Begins (backend : Backend α) (calls : Nat) (problem : Problem α) (loop : Loop α)
    (p : Progress α) : Prop :=
  backend.loop? problem = some loop ∧ ∃ distance records,
    initialDistance problem = .ok distance ∧
    loop.Path calls (.start problem.start problem.step distance) records p ∧
    records.length < iterationBudget problem.maxIterations ∧ loop.continues p = true

/-- It comes to a first iteration wherever the loop goes on from the start. -/
theorem begins_first {distance : α} (hloop : backend.loop? problem = some loop)
    (hdistance : initialDistance problem = .ok distance) (limit : 0 ≤ problem.maxIterations)
    (floor : problem.stepMin ≤ problem.step) (above : problem.tol < distance) :
    backend.Begins calls problem loop (.start problem.start problem.step distance) := by
  refine ⟨hloop, distance, [], hdistance, .stop _, iterationBudget_pos limit, ?_⟩
  rw [Loop.continues_iff, stepMin_of_loop? hloop, tol_of_loop? hloop]
  exact ⟨floor, above⟩

/-- It returns where an iteration leads to an exit. -/
theorem Begins.returns {p next : Progress α} {record : Record α}
    (begins : backend.Begins calls problem loop p) (hstep : loop.Step calls p next record)
    (stops : loop.continues next = false) :
    ∃ history, (backend.run calls problem).result = .ok (next.outcome problem.tol history) ∧
      record ∈ history := by
  obtain ⟨hloop, distance, records, hdistance, path, hlt, goes⟩ := begins
  refine ⟨records ++ [record], (run_result_eq_ok_iff_of_loop? hloop).2 ⟨distance, next,
    records ++ [record], hdistance, path.concat goes hstep, ?_, .inr stops, rfl⟩, by simp⟩
  rw [List.length_append]
  exact hlt

end Backend

end Equilibrium
