import Equilibrium.Flow.Integrator
import Equilibrium.Inner.Solver

/-!
What a run makes known while it goes on.

A run calls collaborators, writes to the log and tells its observers of each iteration and of its
end. All of that is data here: a traced computation is the list of its notices, in order, together
with its result. A failure ends the list where it struck; the notices before it stay.
-/

namespace Equilibrium

/-- One thing that a run makes known. -/
inductive Notice (α : Type) where
  | line (line : LogLine α)
  | inner (call : InnerCall α) (reply : InnerReply α)
  | flow (call : FlowCall α) (reply : FlowReply α)
  | iterated (iteration : Nat) (state : Tensor α) (distance : α)
  | accepted (iterations : Nat) (state : Tensor α) (distance : α)
  | failed (iterations : Nat) (state : Tensor α) (distance : α)
  /-- The engine has packed up a search that ended inside the tolerance. -/
  | succeeded (iterations : Int) (state : Tensor α) (distance : α)
  | started
  /-- The interface receives the outcome, with something derived from it or without. -/
  | delivered (derived : Bool)
  | notified (fault : Fault α)

/-- A computation with the notices it gave. -/
structure Traced (α β : Type) where
  notices : List (Notice α)
  result : Except (Fault α) β

namespace Traced

variable {α β γ : Type}

def pure (b : β) : Traced α β := ⟨[], .ok b⟩

def fail (fault : Fault α) : Traced α β := ⟨[], .error fault⟩

def bind (t : Traced α β) (f : β → Traced α γ) : Traced α γ :=
  match t.result with
  | .ok b =>
    let rest := f b
    ⟨t.notices ++ rest.notices, rest.result⟩
  | .error fault => ⟨t.notices, .error fault⟩

instance : Monad (Traced α) where
  pure := Traced.pure
  bind := Traced.bind

def lift (r : Except (Fault α) β) : Traced α β := ⟨[], r⟩

instance : MonadLift (Except (Fault α)) (Traced α) := ⟨lift⟩

instance : MonadExcept (Fault α) (Traced α) where
  throw := fail
  tryCatch t handler :=
    match t.result with
    | .ok _ => t
    | .error fault =>
      let rest := handler fault
      ⟨t.notices ++ rest.notices, rest.result⟩

def tell (notices : List (Notice α)) : Traced α Unit := ⟨notices, .ok ()⟩

@[simp] theorem pure_eq (b : β) : (Pure.pure b : Traced α β) = ⟨[], .ok b⟩ := rfl

@[simp] theorem bind_ok (ns : List (Notice α)) (b : β) (f : β → Traced α γ) :
    (⟨ns, .ok b⟩ : Traced α β) >>= f = ⟨ns ++ (f b).notices, (f b).result⟩ := rfl

@[simp] theorem bind_error (ns : List (Notice α)) (fault : Fault α) (f : β → Traced α γ) :
    (⟨ns, .error fault⟩ : Traced α β) >>= f = ⟨ns, .error fault⟩ := rfl

@[simp] theorem lift_eq (r : Except (Fault α) β) : lift r = ⟨[], r⟩ := rfl

@[simp] theorem tell_eq (ns : List (Notice α)) : tell ns = ⟨ns, .ok ()⟩ := rfl

end Traced

/-! ### Collaborators -/

/-- Ask an inner solver, keeping the call, its reply and the lines it logged. -/
def InnerSolver.ask {α : Type} (solver : InnerSolver α) (calls : Nat) (call : InnerCall α) :
    Traced α (InnerAnswer α) :=
  let reply := solver.solve calls call
  ⟨.inner call reply :: reply.log.map .line, reply.outcome⟩

def Integrator.ask {α : Type} (integrator : Integrator α) (calls : Nat) (call : FlowCall α) :
    Traced α (Trajectory α) :=
  let reply := integrator.integrate calls call
  ⟨.flow call reply :: reply.log.map .line, reply.outcome⟩

def Notice.isCall {α : Type} : Notice α → Bool
  | inner .. => true
  | flow .. => true
  | _ => false

def callCount {α : Type} (notices : List (Notice α)) : Nat := notices.countP Notice.isCall

end Equilibrium
