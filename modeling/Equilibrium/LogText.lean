import Equilibrium.Decimal.Scientific
import Equilibrium.FaultText
import Equilibrium.Log

/-!
The wording of the log, at double precision. Numbers keep four significant digits.
-/

namespace Equilibrium

open Decimal

def logNumber (x : Float) : String := scientific 3 x

def successText (success : Bool) : String := if success then "True" else "False"

def LogLine.text : LogLine Float → String
  | iteration _ k step distance =>
    s!"iter={k}, step={logNumber step}, distance={logNumber distance}"
  | unconverged distance tol iterations step =>
    s!"Iteration did not converge (distance={logNumber distance} > tol={logNumber tol} " ++
      s!"after {iterations} iterations, step={logNumber step})"
  | innerSolve _ method success evaluations distance =>
    s!"Inner solve ({method.routine}): success={successText success}, nfev={evaluations}, " ++
      s!"|G|={logNumber distance}"
  | innerBreakdown method fault =>
    s!"Inner solve ({method.routine}) broke down: {fault.text}"
  | integrationStopped method time message =>
    s!"Integration with {method} stopped at t={logNumber time}: {message}"
  | integrationSpent method steps time =>
    s!"Integration with {method} used its {steps}-step budget at t={logNumber time}"

end Equilibrium
