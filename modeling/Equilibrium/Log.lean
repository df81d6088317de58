import Equilibrium.Fault

/-!
What a solve writes to its log.

A line is kept as the event it tells of, with the numbers it mentions, so that what is logged can
be reasoned about without its wording. The level of a line follows from the event and from how
talkative the caller asked the solve to be.
-/

namespace Equilibrium

inductive Level where
  | debug
  | info
  | warning
  deriving DecidableEq, Repr

def Level.name : Level → String
  | debug => "DEBUG"
  | info => "INFO"
  | warning => "WARNING"

/-- The level of a line that is ordinary progress to a caller who asked for it. -/
def Level.ofVerbose (verbose : Bool) : Level := if verbose then info else debug

inductive LogLine (α : Type) where
  | iteration (verbose : Bool) (iteration : Int) (step distance : α)
  | unconverged (distance tol : α) (iterations : Nat) (step : α)
  | innerSolve (verbose : Bool) (method : InnerMethod) (success : Bool) (evaluations : Nat)
      (distance : α)
  | innerBreakdown (method : InnerMethod) (fault : Fault α)
  | integrationStopped (method : String) (time : α) (message : String)
  | integrationSpent (method : String) (steps : Int) (time : α)

def LogLine.level {α : Type} : LogLine α → Level
  | iteration verbose .. => .ofVerbose verbose
  | unconverged .. => .warning
  | innerSolve verbose .. => .ofVerbose verbose
  | innerBreakdown .. => .debug
  | integrationStopped .. => .debug
  | integrationSpent .. => .debug

end Equilibrium
