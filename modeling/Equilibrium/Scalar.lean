/-!
The arithmetic that everything else is written over.

Each formula of this library, from the norm of a residual to the law of the pseudo-time step, is
stated once, for any type that carries the operations below. A run takes `Float`, where they are the
operations of double precision; a proof may take exact numbers with an infinity and an undefined
value beside them. Comparisons keep the convention of floating point: whatever is compared with an
undefined value, the answer is no, so `¬ a ≤ b` and `b < a` are different questions and each formula
says which of the two it asks.
-/

namespace Equilibrium

/-- Numbers with a square root, an infinity and an undefined value. -/
class Scalar (α : Type) extends
    Zero α, One α, Add α, Sub α, Mul α, Div α, Neg α, LT α, LE α, BEq α, OfScientific α where
  ofNat : Nat → α
  sqrt : α → α
  abs : α → α
  infinity : α
  undefined : α
  isNaN : α → Bool
  isInf : α → Bool
  decidableLT : DecidableLT α
  decidableLE : DecidableLE α

namespace Scalar

variable {α : Type} [Scalar α]

instance : DecidableLT α := decidableLT

instance : DecidableLE α := decidableLE

/-- The spacing of double-precision numbers next to one, below which no relative tolerance is asked
for. -/
def epsilon : α := 2.220446049250313e-16

def isFinite (x : α) : Bool := !isNaN x && !isInf x

def ofInt (k : Int) : α :=
  if k < 0 then -ofNat k.natAbs else ofNat k.natAbs

/-- The smaller of a value and a ceiling; an undefined value passes, as it is not above the
ceiling. -/
def capped (ceiling x : α) : α :=
  if ceiling < x then ceiling else x

/-- The larger of two values; an undefined first value passes. -/
def larger (x y : α) : α :=
  if x < y then y else x

/-- A value with the undefined one read as infinity, which is how far from a steady state a point
without a residual counts. -/
def orInfinite (x : α) : α :=
  if isNaN x then infinity else x

end Scalar

instance : Scalar Float where
  ofNat := Float.ofNat
  sqrt := Float.sqrt
  abs := Float.abs
  infinity := 1.0 / 0.0
  undefined := 0.0 / 0.0
  isNaN := Float.isNaN
  isInf := Float.isInf
  decidableLT := inferInstance
  decidableLE := inferInstance

end Equilibrium
