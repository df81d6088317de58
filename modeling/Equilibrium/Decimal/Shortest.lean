import Equilibrium.Decimal.Binary

/-!
The shortest text that reads back.

Around a double lies the interval of reals that round to it. For one significant digit, then two,
and so on, the decimal grid of that many digits has two neighbours of the value; the first grid
with a neighbour inside the interval gives the digits, the nearer neighbour if both are inside and
the even one if they are equally near. Seventeen digits always suffice for a double. How the digits
are laid out is a separate decision, held in one record.
-/

namespace Equilibrium.Decimal

-- A power is the one of the naturals, whatever else is known about numbers.
attribute [local instance (2000)] instPowNat

/-- The reals that round to a positive double `m · 2 ^ q`, as multiples of `2 ^ (q - 2)`. Below the
least double of a binade the neighbours lie twice as close; an even `m` takes its end points in. -/
structure Rounding where
  low : Nat
  value : Nat
  high : Nat
  /-- Whether the ends round to the double too. -/
  closed : Bool
  deriving Repr

def Rounding.of (m : Nat) (q : Int) : Rounding where
  low := if m = 2 ^ fractionBits ∧ leastExponent < q then 4 * m - 1 else 4 * m - 2
  value := 4 * m
  high := 4 * m + 2
  closed := m % 2 = 0

/-- Whether the point `num / den` lies in an interval whose bounds are multiples of `1 / den`. -/
def Rounding.holds (r : Rounding) (num den : Nat) : Bool :=
  if r.closed then r.low * den ≤ num && num ≤ r.high * den
  else r.low * den < num && num < r.high * den

/-- The grid point with `k` significant digits that reads back, if there is one. The grid's unit is
`10 ^ (e - k + 1)`, where `e` is the exponent of the leading digit. -/
def Rounding.onGrid (r : Rounding) (q e : Int) (k : Nat) : Option Nat :=
  let unit : Int := e - k + 1
  -- the value and the grid's unit over one denominator
  let (valueNum, valueDen) := fraction r.value (q - 2)
  let (num, den) := scale valueNum valueDen (-unit)
  let below := num / den
  -- a grid point in multiples of `2 ^ (q - 2)`
  let point (c : Nat) : Nat × Nat :=
    let (pointNum, pointDen) := scale c 1 unit
    let (scaleNum, scaleDen) := fraction 1 (2 - q)
    (pointNum * scaleNum, pointDen * scaleDen)
  let fits (c : Nat) : Bool := let (n, d) := point c; r.holds n d
  match fits below, fits (below + 1) with
  | true, true => some (roundHalfEven num den)
  | true, false => some below
  | false, true => some (below + 1)
  | false, false => none

/-- The shortest digits of a positive double and the exponent of the last of them. -/
def shortestDigits (m : Nat) (q : Int) : Nat × Int :=
  let r := Rounding.of m q
  let (num, den) := fraction m q
  let e := leadingExponent num den
  let candidates := (List.range 17).filterMap fun i =>
    (r.onGrid q e (i + 1)).map fun c => (c, e - i)
  candidates.headD (0, 0)

structure Layout where
  /-- The least exponent of a leading digit that is written positionally. -/
  positionalFrom : Int
  positionalBelow : Int
  wholeMark : String
  deriving Repr

/-- Numbers in messages: positional from `0.0001` up to but not including `10 ^ 16`, a whole number
keeping `.0`. -/
def Layout.message : Layout := ⟨-4, 16, ".0"⟩

def Layout.text (layout : Layout) (numeral : List Char) (e : Int) : String :=
  if layout.positionalFrom ≤ e ∧ e < layout.positionalBelow then
    if e < 0 then
      "0." ++ String.ofList (List.replicate ((-e).toNat - 1) '0' ++ numeral)
    else
      let whole := e.toNat + 1
      let padded := numeral ++ List.replicate (whole - numeral.length) '0'
      let fractional := padded.drop whole
      String.ofList (padded.take whole) ++
        (if fractional.isEmpty then layout.wholeMark else "." ++ String.ofList fractional)
  else
    let fractional := numeral.drop 1
    String.ofList (numeral.take 1) ++
      (if fractional.isEmpty then "" else "." ++ String.ofList fractional) ++ exponentText e

def trimZeros (numeral : List Char) : List Char :=
  (numeral.reverse.dropWhile (· == '0')).reverse

/-- The shortest text that reads back as the given double. -/
def shortest (x : Float) : String :=
  match Binary.ofFloat x with
  | .nan => "nan"
  | .infinite negative => signText negative ++ "inf"
  | .finite negative m q =>
    if m = 0 then signText negative ++ Layout.message.text ['0'] 0
    else
      let (digits, last) := shortestDigits m q
      let numeral := (toString digits).toList
      let e := last + numeral.length - 1
      signText negative ++ Layout.message.text (trimZeros numeral) e

end Equilibrium.Decimal
