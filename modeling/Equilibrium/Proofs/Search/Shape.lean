import Equilibrium.Proofs.Search.Stages

/-!
The shape of the state.

Pseudo-transient continuation checks what an inner solver answers before it commits it, so its
states have the shape of the initial one whatever the solver does. The strategies that integrate
trust their integrator, and their states have that shape if the integrator keeps to it.
-/

namespace Equilibrium

variable {α : Type} [Scalar α] {backend : Backend α} {problem : Problem α} {loop : Loop α}
  {calls k : Nat} {p next : Progress α} {record : Record α} {place : Tensor α × α} {o : Outcome α}
  {shape : List Nat}

def Integrator.Keeps {α : Type} (integrator : Integrator α) (shape : List Nat) : Prop :=
  ∀ calls call trajectory y, call.start.shape = shape →
    (integrator.integrate calls call).outcome = .ok trajectory →
    trajectory.states.getLast? = some y → y.shape = shape

/-- The collaborators that a search proposes states with keep to a shape. What an inner solver
answers is checked by the search itself. -/
def Backend.Keeps (backend : Backend α) (shape : List Nat) : Prop :=
  backend.strategy ≠ .pseudoTransient → ∀ method, (backend.tools.integrator method).Keeps shape

theorem Backend.Keeps.proposed (keeps : backend.Keeps shape)
    (h : backend.loop? problem = some loop) {x : Tensor α} {step : α} {candidate : Candidate α}
    (hx : x.shape = shape) (proposed : (loop.propose calls x step).result = .ok candidate) :
    candidate.state.shape = shape := by
  obtain ⟨-, -, rfl⟩ | ⟨hstrategy, rfl⟩ := loop?_eq_some_iff.1 h
  · obtain ⟨call, answer, -, -, hshape, rfl⟩ := Problem.propose_result_eq_ok_iff.1 proposed
    exact hshape.trans hx
  · obtain ⟨trajectory, htrajectory, hstate, -⟩ :=
      Problem.proposeByFlow_result_eq_ok_iff.1 proposed
    have hflows : backend.strategy ≠ .pseudoTransient := by simp [hstrategy]
    exact keeps hflows problem.flow _ _ trajectory _ hx htrajectory hstate

/-! ### States that a search reaches -/

theorem Loop.Step.keeps_shape (keeps : backend.Keeps shape) (h : backend.loop? problem = some loop)
    (hp : p.state.shape = shape) (hstep : loop.Step calls p next record) :
    next.state.shape = shape := by
  obtain ⟨candidate, distance, proposed, -, -, -, -, -, hstate, -⟩ := hstep.settled
  rw [hstate]
  split
  · exact keeps.proposed h hp proposed
  · exact hp

namespace Backend

/-- With collaborators that keep to a shape every stage of a search has it. -/
theorem Reaches.keeps_shape (keeps : backend.Keeps problem.start.shape)
    (h : backend.Reaches calls problem k place) : place.1.shape = problem.start.shape := by
  cases h with
  | loop begins completed =>
      obtain ⟨hloop, distance, records, -, path, -⟩ := begins
      exact completed.keeps_shape keeps hloop
        (path.invariant (fun hp _ hstep => hstep.keeps_shape keeps hloop hp) rfl)
  | direct strategy infinite initial answered =>
      obtain ⟨call, answer, -, -, hshape, rfl⟩ := Problem.propose_result_eq_ok_iff.1 answered
      exact hshape
  | relaxed strategy initial outside integrated last measured timed =>
      exact keeps (by simp [strategy]) problem.flow _ _ _ _ rfl integrated last

theorem run_keeps_shape (keeps : backend.Keeps problem.start.shape)
    (returns : (backend.run calls problem).result = .ok o) :
    o.state.shape = problem.start.shape := by
  obtain hstart | ⟨k, reaches⟩ := reaches_of_returns returns
  · rw [hstart]
  · exact reaches.keeps_shape keeps

end Backend

end Equilibrium
