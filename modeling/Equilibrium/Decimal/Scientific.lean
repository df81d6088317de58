import Equilibrium.Decimal.Binary

/-!
Numbers with a fixed count of significant digits.

The text has one digit before the point, a fixed number after it, and an exponent of at least two
digits. The digits are those of the exact value, rounded once: a half goes to the even neighbour,
and a value that rounds up to the next power of ten moves its exponent.
-/

namespace Equilibrium.Decimal

-- A power is the one of the naturals, whatever else is known about numbers.
attribute [local instance (2000)] instPowNat

/-- The `places + 1` leading digits of a positive fraction, as one natural, and the exponent of the
first of them. -/
def significand (places : Nat) (num den : Nat) : Nat × Int :=
  let e := leadingExponent num den
  let (scaled, unit) := scale num den (places - e)
  let digits := roundHalfEven scaled unit
  if digits = 10 ^ (places + 1) then (10 ^ places, e + 1) else (digits, e)

def scientificText (places : Nat) (digits : Nat) (e : Int) : String :=
  let numeral := (toString digits).toList
  let padded := numeral ++ List.replicate (places + 1 - numeral.length) '0'
  let fractional := padded.drop 1
  let point := if fractional.isEmpty then [] else ['.']
  String.ofList (padded.take 1 ++ point ++ fractional) ++ exponentText e

/-- The text of a double with `places` digits after the point, as in `6.250e-02`. -/
def scientific (places : Nat) (x : Float) : String :=
  match Binary.ofFloat x with
  | .nan => "nan"
  | .infinite negative => signText negative ++ "inf"
  | .finite negative m q =>
    let (digits, e) :=
      if m = 0 then (0, 0) else
        let (num, den) := fraction m q
        significand places num den
    signText negative ++ scientificText places digits e

end Equilibrium.Decimal
