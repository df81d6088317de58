import Equilibrium.Proofs.Search.Backend
import Equilibrium.Proofs.Search.Proposals
import Mathlib.Data.List.Chain

/-!
The states that a search commits.

A result tells of the last committed state only. The ones before it are what the observers of the
run are told after each iteration: where it stands then, and at what distance. The list of these,
with the initial state in front, goes in step with the history: between one entry and the next lies
the iteration that left the record.
-/

namespace Equilibrium

variable {α : Type}

/-- The states that observers are told of, one iteration after another, with their distances. -/
def committed (notices : List (Notice α)) : List (Tensor α × α) :=
  notices.filterMap fun
    | .iterated _ state distance => some (state, distance)
    | _ => none

@[simp] theorem committed_append (ns ms : List (Notice α)) :
    committed (ns ++ ms) = committed ns ++ committed ms :=
  List.filterMap_append

/-- The states told of are those that observers are called with after an iteration. -/
theorem committed_of_hooks {notices : List (Notice α)} (h : hooks notices = []) :
    committed notices = [] := by
  refine List.filterMap_eq_nil_iff.2 fun n hn => ?_
  have hnone : n.hook? = none := List.filterMap_eq_nil_iff.1 h n hn
  cases n with
  | iterated k state distance => cases hnone
  | _ => rfl

variable [Scalar α]

namespace Problem

variable (problem : Problem α) (calls : Nat) (x : Tensor α) (step : α)

theorem hooks_propose (solver : InnerSolver α) (plan : InnerPlan α) :
    hooks (problem.propose solver plan calls x step).notices = [] := by
  refine (Traced.hooks_bind fun answer => ?_).trans ?_
  · simp only
    split
    · rfl
    · rfl
  · rw [implicitStep, Traced.lift_eq]
    cases stepCall problem.residual x step (.ofMask problem.mask) problem.jacobian plan with
    | error fault => rfl
    | ok call => exact solver.hooks_ask calls call

theorem hooks_proposeByFlow (integrator : Integrator α) :
    hooks (problem.proposeByFlow integrator calls x step).notices = [] := by
  refine (Traced.hooks_bind fun trajectory => ?_).trans (integrator.hooks_ask _ _)
  exact (Traced.hooks_bind fun state => rfl).trans rfl

end Problem

theorem Progress.committed_closing (p : Progress α) (tol : α) : committed (p.closing tol) = [] := by
  unfold closing
  split
  · rfl
  · rfl

variable {loop : Loop α} {calls budget : Nat} {p q next last : Progress α} {record : Record α}
  {records : List (Record α)} {places : List (Tensor α × α)}

def Progress.told (p : Progress α) : Tensor α × α := (p.state, p.distance)

namespace Loop

/-- What is told goes in step with the records. -/
structure Told (loop : Loop α) (calls : Nat) (p : Progress α) (records : List (Record α))
    (last : Progress α) (places : List (Tensor α × α)) : Prop where
  length : places.length = records.length
  ends : (p.told :: places).getLast? = some last.told
  step : ∀ k (hk : k < records.length), ∃ q next, loop.Path calls p (records.take k) q ∧
    loop.continues q = true ∧ loop.Step calls q next records[k] ∧
    (p.told :: places)[k]? = some q.told ∧ (p.told :: places)[k + 1]? = some next.told

theorem Told.nil (p : Progress α) : loop.Told calls p [] p [] :=
  ⟨rfl, rfl, fun _ hk => absurd hk (Nat.not_lt_zero _)⟩

theorem Told.cons (goes : loop.continues p = true) (first : loop.Step calls p next record)
    (rest : loop.Told calls next records last places) :
    loop.Told calls p (record :: records) last (next.told :: places) := by
  constructor
  case length => exact congrArg (· + 1) rest.length
  case ends => exact rest.ends
  case step =>
    intro k hk
    cases k with
    | zero => exact ⟨p, next, .stop p, goes, first, rfl, rfl⟩
    | succ k =>
        obtain ⟨q, next', path, hq, hstep, hbefore, hafter⟩ :=
          rest.step k (Nat.lt_of_succ_lt_succ hk)
        exact ⟨q, next', .step goes first path, hq, hstep, hbefore, hafter⟩

/-- What each iteration does to where the search stands is done between neighbours. -/
theorem Told.isChain {R : Tensor α × α → Tensor α × α → Prop}
    (told : loop.Told calls p records last places)
    (each : ∀ {before q next record}, loop.Path calls p before q → loop.continues q = true →
      loop.Step calls q next record → R q.told next.told) :
    List.IsChain R (p.told :: places) := by
  rw [List.isChain_iff_getElem]
  intro k hk
  have hlt : k < records.length := by
    rw [List.length_cons, told.length] at hk
    exact Nat.lt_of_succ_lt_succ hk
  obtain ⟨q, next, path, goes, first, hbefore, hafter⟩ := told.step k hlt
  obtain ⟨_, hq⟩ := List.getElem?_eq_some_iff.1 hbefore
  obtain ⟨_, hnext⟩ := List.getElem?_eq_some_iff.1 hafter
  rw [hq, hnext]
  exact each path goes first

/-- Where every iteration is committed, the distances told are those of the records. -/
theorem Told.distances (told : loop.Told calls p records last places)
    (accepted : ∀ {before q next record}, loop.Path calls p before q → loop.continues q = true →
      loop.Step calls q next record → record.accepted = true) :
    records.map Record.distance = places.map Prod.snd := by
  refine List.ext_getElem (by simp [told.length]) fun k hk hk' => ?_
  rw [List.length_map] at hk hk'
  obtain ⟨q, next, path, goes, first, -, hafter⟩ := told.step k hk
  have hcommitted : records[k].accepted = true := accepted path goes first
  obtain ⟨candidate, d, -, -, -, hdistance, -, -, -, hnext⟩ := first.settled
  rw [hcommitted, if_pos rfl] at hnext
  have hplace : places[k] = next.told := by
    rw [List.getElem?_cons_succ] at hafter
    exact (List.getElem?_eq_some_iff.1 hafter).2
  rw [List.getElem_map, List.getElem_map, hdistance, hplace]
  exact hnext.symm

/-- Observers are told of every iteration that a run completes, and of nothing else. -/
theorem told_of_run (silent : ∀ calls x step, committed (loop.propose calls x step).notices = [])
    (returns : (loop.run calls budget p).result = .ok (last, records)) :
    loop.Told calls p records last (committed (loop.run calls budget p).notices) := by
  induction budget generalizing p records with
  | zero =>
      cases returns
      exact .nil _
  | succ budget ih =>
      cases hgo : loop.continues p with
      | false =>
          rw [run_of_not_continues hgo] at returns ⊢
          cases returns
          exact .nil _
      | true =>
          obtain ⟨next, record, rest, hstep, hrest, rfl⟩ :=
            (run_succ_result_eq_ok_iff hgo).1 returns
          have hfirst : committed (loop.iterate calls p).notices = [next.told] := by
            rw [iterate_notices (iterate_result_eq_ok_iff.2 hstep), committed_append, silent]
            rfl
          rw [run_succ_notices hgo hstep, committed_append, hfirst]
          exact .cons hgo hstep (ih hrest)

end Loop

/-- What a loop proposes with calls no observers. -/
theorem Backend.hooks_propose_of_loop? {backend : Backend α} {problem : Problem α}
    (h : backend.loop? problem = some loop) (calls : Nat) (x : Tensor α) (step : α) :
    hooks (loop.propose calls x step).notices = [] := by
  obtain ⟨-, -, rfl⟩ | ⟨-, rfl⟩ := loop?_eq_some_iff.1 h
  · exact problem.hooks_propose calls x step _ _
  · exact problem.hooks_proposeByFlow calls x step _

/-- What the observers of a search that loops are told goes in step with its records. -/
theorem Backend.told_of_path {backend : Backend α} {problem : Problem α} {distance : α}
    (h : backend.loop? problem = some loop) (hdistance : initialDistance problem = .ok distance)
    (path : loop.Path calls (.start problem.start problem.step distance) records last)
    (hle : records.length ≤ iterationBudget problem.maxIterations)
    (hexit : records.length = iterationBudget problem.maxIterations ∨
      loop.continues last = false) :
    loop.Told calls (.start problem.start problem.step distance) records last
      (committed (backend.run calls problem).notices) := by
  have hrun := Loop.run_result_eq_ok_iff.2 ⟨path, hle, hexit⟩
  have silent : ∀ calls x step, committed (loop.propose calls x step).notices = [] :=
    fun calls x step => committed_of_hooks (hooks_propose_of_loop? h calls x step)
  rw [run_notices_of_loop? h hdistance hrun, committed_append, Progress.committed_closing,
    List.append_nil]
  exact Loop.told_of_run silent hrun

end Equilibrium
