import Equilibrium.Proofs.Search.Singular
import Equilibrium.Proofs.Session.FixedPoint
import Equilibrium.Proofs.Session.Hooks

/-!
The length of the state.

A state is a vector, and it should stay as long as the initial one. Pseudo-transient continuation
sees to that: what an inner solver answers is checked before it is committed, whatever the solver.
The strategies that integrate trust their integrator; they keep the length if it does. A residual
that takes vectors of every length notices nothing, so an integrator that does not keep it is found
out by nobody. Only settings under which nothing is ever integrated are safe from that.
-/

namespace Equilibrium

variable {α : Type} [Scalar α] {backend : Backend α} {problem : Problem α} {loop : Loop α}
  {calls k : Nat} {p : Progress α} {place : Tensor α × α}

/-! ### Solves -/

/-- Unless a solve fails, the states that it commits and the one that it returns have this shape. -/
def Traced.KeepsTo (solve : Traced α (Result α)) (shape : List Nat) : Prop :=
  ∀ result, solve.result = .ok result → result.state.shape = shape ∧
    ∀ k y distance, Hook.iteration k y distance ∈ hooks solve.notices → y.shape = shape

/-- Solves by a strategy, under this configuration and with backends of some kind, keep the length
of their initial state. -/
def Config.KeepsLength (c : Config α) (strategy : Strategy)
    (Trusted : Backend α → List Nat → Prop) : Prop :=
  ∀ (s : Session α) (r : Request α) (o : Overrides α) (keep : Bool) (start : Tensor α),
    s.interface.strategy = strategy → s.backend.strategy = strategy → s.effective o = .ok c →
    r.start = .ok start → Trusted s.backend [start.leading] →
    (s.solve r o keep).2.KeepsTo [start.leading]

omit [Scalar α] in
theorem mem_of_mem_stageHooks {places : List (Tensor α × α)} {i : Nat} {y : Tensor α}
    {distance : α} (h : Hook.iteration i y distance ∈ stageHooks k places) :
    ∃ j : Nat, places[j]? = some (y, distance) := by
  obtain ⟨j, hj, heq⟩ := List.mem_mapIdx.1 h
  cases heq
  exact ⟨j, List.getElem?_eq_getElem hj⟩

omit [Scalar α] in
theorem Result.iteration_notMem_endHooks (result : Result α) {i : Nat} {y : Tensor α}
    {distance : α} : Hook.iteration i y distance ∉ result.endHooks := by
  unfold endHooks
  split
  · simp
  · simp

/-- A solve keeps to the shape of its start if its search does at every stage and at its end. -/
theorem Session.keepsTo_of_search {s : Session α} {r : Request α} {o : Overrides α} {keep : Bool}
    {c : Config α} {start : Tensor α} (effective : s.effective o = .ok c)
    (initial : r.start = .ok start)
    (search : ∀ problem, Problem.create s.interface.strategy c r = .ok problem →
      problem.start.shape = [start.leading] →
      (∀ k place, s.backend.Reaches s.calls problem k place → place.1.shape = [start.leading]) ∧
      ∀ outcome, (s.backend.run s.calls problem).result = .ok outcome →
        outcome.state.shape = [start.leading]) :
    (s.solve r o keep).2.KeepsTo [start.leading] := by
  intro result returns
  obtain ⟨c', problem, places, effective', created, reaches, -, hhooks⟩ := hooks_of_returns returns
  cases effective'.symm.trans effective
  obtain ⟨c', problem', outcome, effective', created', hrun, rfl⟩ :=
    solve_result_eq_ok_iff.1 returns
  cases effective'.symm.trans effective
  cases created'.symm.trans created
  have hstart : problem.start.shape = [start.leading] := by
    have wellFormed := Problem.wellFormed_of_create created
    obtain ⟨F, jacobian, start', mask, -, -, hstart', -, -, -, -, -, rfl⟩ :=
      Problem.create_eq_ok_iff.1 created
    cases hstart'.symm.trans initial
    exact wellFormed.start
  obtain ⟨hreached, hreturned⟩ := search problem created hstart
  refine ⟨hreturned outcome hrun, fun k y distance h => ?_⟩
  rw [hhooks] at h
  obtain h | h := List.mem_append.1 h
  · obtain ⟨j, hplace⟩ := mem_of_mem_stageHooks h
    exact hreached _ _ ((reaches j _).1 hplace)
  · exact absurd h (Result.iteration_notMem_endHooks _)

/-- Collaborators that keep to the shape of the start are all that it takes. -/
theorem Config.keepsLength_of_keeps (c : Config α) (strategy : Strategy) :
    c.KeepsLength strategy Backend.Keeps := by
  intro s r o keep start _ _ effective initial keeps
  refine Session.keepsTo_of_search effective initial fun problem created hstart => ?_
  rw [← hstart] at keeps ⊢
  exact ⟨fun k place reaches => reaches.keeps_shape keeps,
    fun outcome => Backend.run_keeps_shape keeps⟩

/-! ### Settings under which nothing is integrated -/

/-- A search by this strategy comes to call its integrator, if it begins far enough from a steady
state. -/
def Settings.Integrates (s : Settings α) : Strategy → Prop
  | .pseudoTransient => False
  | .horizons =>
    Scalar.isFinite s.step = true ∧ s.stepMin ≤ s.step ∧ s.tol < Scalar.infinity
  | .relaxation => s.tol < Scalar.infinity

theorem Loop.Path.continues {q : Progress α} {records : List (Record α)}
    (path : loop.Path calls p records q) (goes : loop.continues q = true) :
    loop.continues p = true := by
  cases path with
  | stop => exact goes
  | step goes' first rest => exact goes'

section

variable [Scalar.Lawful α] [Scalar.Ordered α] [Scalar.Transitive α]

/-- If every distance is within the tolerance, so is the initial one. -/
theorem within_of_not_lt_infinity {distance : α} (positive : 0 < problem.tol)
    (unbounded : ¬ problem.tol < Scalar.infinity)
    (hdistance : initialDistance problem = .ok distance) : distance ≤ problem.tol := by
  have hinfinity : Scalar.infinity ≤ problem.tol :=
    Scalar.Ordered.le_of_not_lt (Scalar.Ordered.isNaN_of_lt positive)
      Scalar.Lawful.isNaN_infinity unbounded
  exact Scalar.Transitive.le_trans
    (Scalar.Transitive.le_infinity (initialDistance_eq_ok_iff.1 hdistance).2) hinfinity

/-- A search that reaches a stage, and not by inner solves, integrates. -/
theorem Backend.Reaches.integrates {strategy : Strategy} {c : Config α} {r : Request α}
    (h : backend.Reaches calls problem k place) (flows : backend.strategy ≠ .pseudoTransient)
    (created : Problem.create strategy c r = .ok problem) (hs : backend.strategy = strategy) :
    c.settings.Integrates strategy := by
  have positive : 0 < problem.tol := (Problem.inRange_of_create created).tol
  obtain ⟨F, jacobian, start, mask, -, -, -, -, -, -, -, check, rfl⟩ :=
    Problem.create_eq_ok_iff.1 created
  cases h with
  | loop begins completed =>
      obtain ⟨hloop, distance, records, hdistance, path, -, goes⟩ := begins
      obtain ⟨hfloor, habove⟩ := Loop.continues_iff.1 (path.continues goes)
      rw [stepMin_of_loop? hloop] at hfloor
      rw [tol_of_loop? hloop] at habove
      obtain ⟨hptc, -⟩ | ⟨hhorizons, -⟩ := loop?_eq_some_iff.1 hloop
      · exact absurd hptc flows
      · rw [hhorizons] at hs
        subst hs
        refine ⟨Strategy.isFinite_of_check check, hfloor, ?_⟩
        by_contra unbounded
        exact Scalar.Ordered.not_le_of_lt habove
          (within_of_not_lt_infinity positive unbounded hdistance)
  | direct hptc infinite initial answered => exact absurd hptc flows
  | relaxed hrelaxation initial outside integrated last measured timed =>
      rw [hrelaxation] at hs
      subst hs
      by_contra unbounded
      exact outside (within_of_not_lt_infinity positive unbounded initial)

/-- Where nothing is integrated, it does not matter what an integrator would do. -/
theorem Config.keepsLength_of_not_integrates {c : Config α} {strategy : Strategy}
    (idle : ¬ c.settings.Integrates strategy) : c.KeepsLength strategy fun _ _ => True := by
  intro s r o keep start hinterface hbackend effective initial _
  by_cases hptc : strategy = .pseudoTransient
  · exact c.keepsLength_of_keeps strategy s r o keep start hinterface hbackend effective initial
      fun flows => absurd (hbackend.trans hptc) flows
  · refine Session.keepsTo_of_search effective initial fun problem created hstart => ?_
    rw [hinterface] at created
    have hnone : ∀ k place, ¬ s.backend.Reaches s.calls problem k place := fun k place reaches =>
      idle (reaches.integrates (hbackend ▸ hptc) created hbackend)
    refine ⟨fun k place reaches => absurd reaches (hnone k place), fun outcome returns => ?_⟩
    obtain hreturned | ⟨k, reaches⟩ := Backend.reaches_of_returns returns
    · rw [hreturned, hstart]
    · exact absurd reaches (hnone k _)

end

/-! ### An integrator that stretches the state -/

def Toolbox.stretching : Toolbox Float := .blind fun _ => .vector [0, 0]

theorem initialDistance_identity_infinity (c : Config Float) :
    initialDistance (.identity c Scalar.infinity) = .ok Scalar.infinity := by
  have hdistance : residualDistance .ok (.vector [Scalar.infinity]) =
      .ok (Scalar.infinity : Float) := rfl
  exact initialDistance_eq_ok_iff.2 ⟨hdistance, Scalar.Lawful.isNaN_infinity⟩

/-- Where a search integrates, it takes the stretched state for its own. -/
theorem Backend.returns_stretched {c : Config Float} {strategy : Strategy} (calls : Nat)
    (integrates : c.settings.Integrates strategy) :
    ∃ o, ((Backend.mk strategy .stretching).run calls (.identity c Scalar.infinity)).result =
      .ok o ∧ o.state = .vector [0, 0] := by
  have hdistance := initialDistance_identity_infinity c
  have measured : candidateDistance (Problem.identity c Scalar.infinity).residual (.vector [0, 0]) =
      .ok (0 : Float) := by
    have h : candidateDistance .ok (.vector [0, 0]) = .ok (0 : Float) := rfl
    exact h
  cases strategy with
  | pseudoTransient => exact integrates.elim
  | horizons =>
      obtain ⟨-, hfloor, hbounded⟩ := integrates
      obtain ⟨loop, hloop⟩ : ∃ loop, (Backend.mk .horizons .stretching).loop?
          (.identity c Scalar.infinity) = some loop := ⟨_, loop?_horizons _ _⟩
      rw [← residual_of_loop? hloop] at measured
      let p : Progress Float := .start (.vector [Scalar.infinity]) c.settings.step Scalar.infinity
      have begins : (Backend.mk .horizons .stretching).Begins calls (.identity c Scalar.infinity)
          loop p :=
        begins_first hloop hdistance c.inRange.maxIterations hfloor hbounded
      obtain ⟨proposed, admitted⟩ : (loop.propose (calls + p.iteration) p.state p.step).result =
          .ok ⟨.vector [0, 0], Scalar.undefined⟩ ∧ loop.admits Scalar.undefined = true := by
        cases hloop
        exact ⟨Problem.proposeByFlow_result_eq_ok_iff.2 ⟨_, rfl, rfl, rfl⟩, rfl⟩
      have finite : Scalar.isFinite (0 : Float) = true := by decide
      have completed := Loop.Step.accept _ 0 proposed measured
        (Bool.and_eq_true_iff.2 ⟨admitted, finite⟩)
      have stops : loop.continues (loop.law.accept p.begun (.vector [0, 0]) 0) = false := by
        rw [Loop.not_continues_iff, tol_of_loop? hloop]
        exact fun goes => Scalar.Ordered.not_le_of_lt goes.2 (Float.le_of_lt c.inRange.tol)
      obtain ⟨history, hrun, -⟩ := begins.returns completed stops
      exact ⟨_, hrun, rfl⟩
  | relaxation =>
      have outside : ¬ Scalar.infinity ≤ c.settings.tol := Scalar.Ordered.not_le_of_lt integrates
      exact ⟨_, (Problem.relax_result_eq_ok_iff_of_not_within hdistance outside).2
        ⟨_, .vector [0, 0], 0, c.settings.horizon, rfl, rfl, measured, rfl, rfl⟩, rfl⟩

/-- A solve under settings that integrate returns a state that is longer than the initial one, if
the integrator does. -/
theorem Config.not_keepsLength_of_integrates {c : Config Float} {strategy : Strategy}
    (integrates : c.settings.Integrates strategy) :
    ¬ c.KeepsLength strategy fun _ _ => True := by
  intro keepsLength
  have created : Problem.create strategy c (.identity Scalar.infinity) =
      .ok (.identity c Scalar.infinity) := by
    refine Problem.create_of_value ?_ rfl rfl
    cases strategy with
    | pseudoTransient => exact integrates.elim
    | horizons => simp [Strategy.check, integrates.1]
    | relaxation => simp [Strategy.check]
  obtain ⟨o, hrun, hstate⟩ := Backend.returns_stretched 0 integrates
  let s : Session Float := ⟨c, ⟨strategy, .stretching⟩, .ofStrategy strategy, none, 0⟩
  have effective : s.effective .empty = .ok c := c.merge_empty
  have returns : (s.solve (.identity Scalar.infinity) .empty false).2.result =
      .ok (.ofOutcome (.identity c Scalar.infinity) o) :=
    Session.solve_result_eq_ok_iff.2 ⟨c, _, o, effective, created, hrun, rfl⟩
  have hshape : o.state.shape = [1] :=
    (keepsLength s _ .empty false (.vector [Scalar.infinity]) rfl rfl effective rfl trivial _
      returns).1
  rw [hstate] at hshape
  cases hshape

/-- In double precision, whatever the residual and the collaborators: with collaborators that keep
to the length of what they are asked about every solve keeps the length of its initial state, and
with any collaborators it does exactly if the strategy has no use for an integrator under these
settings. -/
theorem Config.keepsLength_iff (c : Config Float) (strategy : Strategy) :
    c.KeepsLength strategy Backend.Keeps ∧
      ((c.KeepsLength strategy fun _ _ => True) ↔ ¬ c.settings.Integrates strategy) := by
  refine ⟨c.keepsLength_of_keeps strategy, ?_, keepsLength_of_not_integrates⟩
  intro keepsLength integrates
  exact not_keepsLength_of_integrates integrates keepsLength

/-- With the standard settings growing horizons can be led from one component to two. -/
theorem Config.double_stretches :
    (((Session.mk .double ⟨.horizons, .stretching⟩ (.ofStrategy .horizons) none 0).solve
        (.identity 1) .empty false).2.result.toOption.map fun result =>
      (result.state.shape, result.converged)) = some ([2], true) ∧
    ¬ Config.double.KeepsLength .horizons fun _ _ => True := by
  have integrates : Config.double.settings.Integrates .horizons := by
    refine ⟨?_, ?_, ?_⟩
    · decide +kernel
    · decide +kernel
    · decide +kernel
  exact ⟨by decide +kernel, not_keepsLength_of_integrates integrates⟩

end Equilibrium
