import Equilibrium.Log

/-!
The history of a search.

Each outer iteration leaves one record, whether it was committed or not. A record holds the step
that was tried and the coefficient that came out of it, so the list of records tells how the step
developed.
-/

namespace Equilibrium

structure Record (α : Type) where
  iteration : Int
  step : α
  /-- Infinite where the residual of the candidate is undefined. -/
  distance : α
  /-- The distance that the inner solver reported, undefined where there was none. -/
  innerDistance : α
  coef : α
  accepted : Bool

namespace Record

def columns : List String :=
  ["iteration", "step", "distance", "inner_distance", "coef", "accepted"]

/-- The line of the log that tells of a record. The distance of a candidate that was not committed
is not shown. -/
def line {α : Type} [Scalar α] (verbose : Bool) (r : Record α) : LogLine α :=
  .iteration verbose r.iteration r.step (if r.accepted then r.distance else Scalar.undefined)

end Record

end Equilibrium
