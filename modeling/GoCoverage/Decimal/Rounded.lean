import GoCoverage.Decimal.Binary64

/-! # Decimals with a fixed number of places

A number is rounded to the nearest decimal with the given number of places.  The number is taken
exactly, as the fraction it is, and a half goes to the even neighbour. -/

namespace GoCoverage.Decimal

/-- The natural number nearest to a fraction; a half goes to the even neighbour. -/
def roundDiv (numerator denominator : Nat) : Nat :=
  let below := numerator / denominator
  let twice := 2 * (numerator % denominator)
  if twice < denominator then below
  else if denominator < twice then below + 1
  else if below % 2 = 0 then below
  else below + 1

/-- A magnitude rounded to so many places, as a multiple of the last place. -/
def Magnitude.rounded (magnitude : Magnitude) (places : Nat) : Nat :=
  roundDiv (magnitude.mantissa * Nat.pow 2 magnitude.exponent.toNat * Nat.pow 10 places)
    (Nat.pow 2 (-magnitude.exponent).toNat)

/-- The text of a multiple of the last place. -/
def withPlaces (multiple places : Nat) : List Char :=
  let digits := Nat.toDigits 10 multiple
  let padded := List.replicate (places + 1 - digits.length) '0' ++ digits
  padded.take (padded.length - places) ++ '.' :: padded.drop (padded.length - places)

/-- A floating-point number with so many places after the point. -/
def rounded (x : Float) (places : Nat) : String :=
  match Binary64.ofFloat x with
  | .finite negative magnitude =>
    String.ofList
      ((if negative then ['-'] else []) ++ withPlaces (magnitude.rounded places) places)
  | .infinite negative => if negative then "-inf" else "inf"
  | .notANumber => "NaN"

end GoCoverage.Decimal
