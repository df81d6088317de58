/-!
The exact value of a double.

A finite double is `m · 2 ^ q` for a natural `m` and an integer `q`, up to sign, and both can be
read off its bits. Every text of a number in this library is computed from that pair in exact
arithmetic on naturals; no decimal digit comes out of a floating operation.
-/

namespace Equilibrium.Decimal

-- A power is the one of the naturals, whatever else is known about numbers.
attribute [local instance (2000)] instPowNat

inductive Binary where
  | nan
  | infinite (negative : Bool)
  /-- The number `± m · 2 ^ q`; zero has a sign too. -/
  | finite (negative : Bool) (m : Nat) (q : Int)
  deriving Repr, DecidableEq

def leastExponent : Int := -1074

def fractionBits : Nat := 52

def exponentBits : Nat := 11

def Binary.ofFloat (x : Float) : Binary :=
  let bits := x.toBits.toNat
  let negative := bits / 2 ^ (exponentBits + fractionBits) == 1
  let biased : Nat := bits / 2 ^ fractionBits % 2 ^ exponentBits
  let trailing : Nat := bits % 2 ^ fractionBits
  if biased = 2047 then
    if trailing = 0 then .infinite negative else .nan
  else if biased = 0 then .finite negative trailing leastExponent
  else .finite negative (2 ^ fractionBits + trailing) (biased - 1 + leastExponent)

/-- A magnitude `m · 2 ^ q` as a fraction of naturals, the denominator positive. -/
def fraction (m : Nat) (q : Int) : Nat × Nat :=
  if 0 ≤ q then (m * 2 ^ q.toNat, 1) else (m, 2 ^ (-q).toNat)

/-- The whole part of a finite number, what is behind the point dropped. -/
def Binary.whole? : Binary → Option Int
  | .finite negative m q =>
    let (num, den) := fraction m q
    some (if negative then -(num / den : Nat) else (num / den : Nat))
  | _ => none

def digitCount (n : Nat) : Nat := (Nat.toDigits 10 n).length

/-- `num / den · 10 ^ e`, again as a fraction. -/
def scale (num den : Nat) (e : Int) : Nat × Nat :=
  if 0 ≤ e then (num * 10 ^ e.toNat, den) else (num, den * 10 ^ (-e).toNat)

/-- The exponent of the leading decimal digit of a positive fraction: the greatest `e` with
`10 ^ e ≤ num / den`. The lengths of the two numerals leave two candidates. -/
def leadingExponent (num den : Nat) : Int :=
  let e : Int := digitCount num - digitCount den
  let (num, den) := scale num den (-e)
  if den ≤ num then e else e - 1

/-- A quotient rounded to the nearest natural, a half to the even one. -/
def roundHalfEven (num den : Nat) : Nat :=
  let k := num / den
  let twice := 2 * (num % den)
  if twice < den then k
  else if den < twice then k + 1
  else k + k % 2

def signText (negative : Bool) : String := if negative then "-" else ""

/-- The exponent of a number's text: a sign and at least two digits. -/
def exponentText (e : Int) : String :=
  let digits := toString e.natAbs
  let padded := if digits.length < 2 then "0" ++ digits else digits
  (if e < 0 then "e-" else "e+") ++ padded

end Equilibrium.Decimal
