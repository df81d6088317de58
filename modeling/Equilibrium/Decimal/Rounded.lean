import Equilibrium.Decimal.Scientific

/-!
Rounded numbers.

A number known only roughly is written with a few significant digits, and one that is too near to
zero to have any is written as zero.
-/

namespace Equilibrium.Decimal

structure Digits where
  /-- Below this absolute value a number counts as zero. -/
  zero : Float
  digits : Nat

def Digits.text (r : Digits) (x : Float) : String :=
  if x.abs < r.zero then "0" else scientific (r.digits - 1) x

end Equilibrium.Decimal
