import Equilibrium.Inner.Solver
import Equilibrium.Tensor.Spread

/-!
Simple inner solvers.

An inner solver need not be a serious one. These answer from a list prepared beforehand, or improve
the guess by a fixed number of sweeps over the components; a search that goes through one of them
can be followed by hand.
-/

namespace Equilibrium

variable {α : Type} [Scalar α]

/-! ### Prepared answers -/

/-- The item for a call: each is used once, and the last one from then on. -/
def preparedFor {β : Type} (items : List β) (calls : Nat) : Except (Fault α) β :=
  match items[min calls (items.length - 1)]? with
  | some item => .ok item
  | none => .error .noAnswer

inductive PreparedAnswer (α : Type) where
  | state (x : Tensor α) (distance : α)
  | move (dx : Tensor α) (distance : α)
  | fail (fault : Fault α)

def PreparedAnswer.reply (call : InnerCall α) :
    PreparedAnswer α → Except (Fault α) (InnerAnswer α)
  | state x distance => .ok ⟨x, distance⟩
  | move dx distance => do return ⟨← call.guess.plus dx, distance⟩
  | fail fault => .error fault

def InnerSolver.prepared (name : String) (answers : List (PreparedAnswer α)) : InnerSolver α where
  name := name
  solve calls call :=
    ⟨[], none, do (← preparedFor answers calls).reply call⟩

/-! ### Sweeps -/

def Tensor.components (t : Tensor α) : Except (Fault α) (List α) :=
  match t.shape with
  | [] => .error .notIterable
  | [_] => .ok t.entries
  | _ => .error .notNumber

def sweepTimes (sweep : Tensor α → Except (Fault α) (Tensor α)) :
    Nat → Tensor α → Except (Fault α) (Tensor α)
  | 0, x => .ok x
  | k + 1, x => do sweepTimes sweep k (← sweep x)

def InnerCall.sweeps (call : InnerCall α) (sweeps : Int) : Nat :=
  (min sweeps call.maxIterations).toNat

def InnerCall.replyBySweeps (call : InnerCall α) (sweeps : Int)
    (sweep : Tensor α → Except (Fault α) (Tensor α)) : InnerReply α :=
  let outcome := do
    let x ← sweepTimes sweep (call.sweeps sweeps) call.guess
    let g ← call.residual x
    return (x, g, largestOrUndefined (← g.components))
  match outcome with
  | .ok (x, g, distance) => ⟨[], some g, .ok ⟨x, distance⟩⟩
  | .error fault => ⟨[], none, .error fault⟩

def entryOf (xs : List α) (i : Nat) : Except (Fault α) α :=
  match xs[i]? with
  | some x => .ok x
  | none => .error (.noSuchEntry i 0 xs.length)

def moveEach (x : Tensor α) (move : Nat → α → Except (Fault α) α) :
    Except (Fault α) (Tensor α) := do
  let xs ← x.components
  let moved ← xs.zipIdx.mapM fun (a, i) => move i a
  return .vector moved

/-- A sweep that moves each component along its residual. -/
def picardSweep (G : Field α) (omega : α) (x : Tensor α) : Except (Fault α) (Tensor α) := do
  let g ← (← G x).components
  moveEach x fun i a => do return a + omega * (← entryOf g i)

def InnerSolver.picard (name : String) (omega : α) (sweeps : Int) : InnerSolver α where
  name := name
  solve _ call := call.replyBySweeps sweeps (picardSweep call.residual omega)

def Tensor.diagonalEntry (t : Tensor α) (i : Nat) : Except (Fault α) α :=
  match t.shape with
  | [n, m] =>
    if n ≤ i then .error (.noSuchEntry i 0 n)
    else if m ≤ i then .error (.noSuchEntry i 1 m)
    else .ok (t.entries.getD (i * m + i) 0)
  | _ :: _ :: _ => .error .ragged
  | shape => .error (.tooFewAxes shape.length 2)

/-- A sweep that takes a Newton step in each component, as if the others were fixed. -/
def diagonalNewtonSweep (G J : Field α) (x : Tensor α) : Except (Fault α) (Tensor α) := do
  let g ← (← G x).components
  let jac ← J x
  moveEach x fun i a => do return a - (← entryOf g i) / (← jac.diagonalEntry i)

def noJacobian : Fault α := .signalled (.other "RuntimeError") "no jacobian"

/-- The solver that sweeps with the diagonal of the Jacobian, without which it fails. -/
def InnerSolver.diagonalNewton (name : String) (sweeps : Int) : InnerSolver α where
  name := name
  solve _ call :=
    match call.jacobian with
    | none => ⟨[], none, .error noJacobian⟩
    | some J => call.replyBySweeps sweeps (diagonalNewtonSweep call.residual J)

end Equilibrium
