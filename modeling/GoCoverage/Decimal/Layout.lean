import GoCoverage.Decimal.Shortest

/-! # How decimals are laid out

The digits of a number are settled by `shortest`; a layout settles the rest: for which numbers the
digits stand in their places and for which an exponent is written, whether whole numbers keep a
point, and what is written for the values that are no decimals. -/

namespace GoCoverage.Decimal

/-- How a number is written. -/
structure Layout where
  /-- Which of two equally near decimals is written. -/
  tie : Tie
  /-- The digits stand in their places if the power of ten of the first one is among these. -/
  positional : Int → Bool
  /-- A whole number written in places ends in a point and a zero. -/
  keepsPoint : Bool
  infinity : String
  negativeInfinity : String
  notANumber : String

namespace Layout

/-- The digits of a natural number. -/
def digitsOf (n : Nat) : List Char := Nat.toDigits 10 n

/-- A text of zeros. -/
def zeros (count : Nat) : List Char := List.replicate count '0'

/-- Digits in their places. -/
def inPlaces (layout : Layout) (digits : List Char) (exponent : Int) : List Char :=
  if 0 ≤ exponent then
    digits ++ zeros exponent.toNat ++ (if layout.keepsPoint then ['.', '0'] else [])
  else
    let places := (-exponent).toNat
    if places < digits.length then
      digits.take (digits.length - places) ++ '.' :: digits.drop (digits.length - places)
    else
      '0' :: '.' :: (zeros (places - digits.length) ++ digits)

/-- A first digit, the others after a point, and the power of ten of the first one with its sign. -/
def withExponent (digits : List Char) (leading : Int) : List Char :=
  let mantissa := match digits with
    | [] => []
    | [d] => [d]
    | d :: others => d :: '.' :: others
  mantissa ++ 'e' :: (if leading < 0 then '-' else '+') :: digitsOf leading.natAbs

/-- The text of a magnitude. -/
def magnitude (layout : Layout) (value : Magnitude) : List Char :=
  let decimal := shortest value layout.tie
  let digits := digitsOf decimal.digits
  let leading := decimal.exponent + (digits.length : Int) - 1
  if layout.positional leading then
    layout.inPlaces digits decimal.exponent
  else
    withExponent digits leading

/-- The text of what a floating-point number stands for. -/
def binary64 (layout : Layout) : Binary64 → String
  | .finite negative value =>
    String.ofList ((if negative then ['-'] else []) ++ layout.magnitude value)
  | .infinite negative => if negative then layout.negativeInfinity else layout.infinity
  | .notANumber => layout.notANumber

/-- The text of a floating-point number. -/
def write (layout : Layout) (x : Float) : String := layout.binary64 (.ofFloat x)

/-- Every digit in its place, and no point after whole numbers. -/
def plain : Layout where
  tie := .larger
  positional _ := true
  keepsPoint := false
  infinity := "inf"
  negativeInfinity := "-inf"
  notANumber := "NaN"

end Layout

end GoCoverage.Decimal
