import GoCoverage.Decimal.Binary64

/-! # The shortest decimal that reads back

A decimal text reads back as a floating-point number when the decimal lies among the reals that
round to that number.  Those reals form an interval around the number; its ends belong to it exactly
when the mantissa is even.  The shortest decimal is found on the coarsest grid of powers of ten that
has a point in the interval, and of two such points it is the nearer one.  If any point of a grid
lies in the interval, one of the two next to the number does, so two points are tried on each
grid. -/

namespace GoCoverage.Decimal

/-- The decimal `digits · 10 ^ exponent`. -/
structure Scaled where
  digits : Nat
  exponent : Int
deriving DecidableEq, Repr

/-- Which of two decimals that are equally near is taken. -/
inductive Tie where
  | larger
  | even
deriving DecidableEq, Repr

/-- A magnitude and the reals that round to it, measured in quarters of its last bit on a grid of
powers of ten: the grid's point `n` stands for `n · grid` and the number for `value · unit`. -/
structure OnGrid where
  value : Nat
  /-- The lower end of the interval. -/
  low : Nat
  /-- The upper end of the interval. -/
  high : Nat
  /-- The ends belong to the interval. -/
  closed : Bool
  unit : Nat
  grid : Nat
deriving DecidableEq, Repr

namespace OnGrid

/-- A magnitude seen on the grid of a power of ten.  Powers with a negative exponent go to the other
side. -/
def ofMagnitude (magnitude : Magnitude) (power : Int) : OnGrid where
  value := 4 * magnitude.mantissa
  low := 4 * magnitude.mantissa - (if magnitude.narrowBelow then 1 else 2)
  high := 4 * magnitude.mantissa + 2
  closed := magnitude.mantissa % 2 == 0
  unit := Nat.pow 2 (magnitude.exponent - 2).toNat * Nat.pow 10 (-power).toNat
  grid := Nat.pow 2 (2 - magnitude.exponent).toNat * Nat.pow 10 power.toNat

/-- A point of the grid lies in the interval. -/
def holds (g : OnGrid) (point : Nat) : Bool :=
  if g.closed then
    g.low * g.unit ≤ point * g.grid && point * g.grid ≤ g.high * g.unit
  else
    g.low * g.unit < point * g.grid && point * g.grid < g.high * g.unit

/-- The last point of the grid that is not above the number. -/
def below (g : OnGrid) : Nat := g.value * g.unit / g.grid

/-- The nearer of the two points around the number. -/
def nearer (g : OnGrid) (tie : Tie) : Nat :=
  let toBelow := g.value * g.unit - g.below * g.grid
  let toAbove := (g.below + 1) * g.grid - g.value * g.unit
  if toBelow < toAbove then g.below
  else if toAbove < toBelow then g.below + 1
  else
    match tie with
    | .larger => g.below + 1
    | .even => if g.below % 2 = 0 then g.below else g.below + 1

/-- The point of the grid that reads back as the number, if there is one. -/
def hit? (g : OnGrid) (tie : Tie) : Option Nat :=
  match g.holds g.below, g.holds (g.below + 1) with
  | true, true => some (g.nearer tie)
  | true, false => some g.below
  | false, true => some (g.below + 1)
  | false, false => none

end OnGrid

/-- A power of ten above every real that rounds to the magnitude. -/
def powerAbove (magnitude : Magnitude) : Int :=
  ((magnitude.mantissa.log2 : Int) + 2 + magnitude.exponent) * 30103 / 100000 + 1

/-- How many grids are tried: seventeen digits always suffice, and the first power may be two too
high. -/
def gridsTried : Nat := 20

/-- The decimal on the first grid that has one, from a power of ten downward. -/
def firstHit (magnitude : Magnitude) (tie : Tie) : Nat → Int → Scaled
  | 0, power => { digits := (OnGrid.ofMagnitude magnitude power).below, exponent := power }
  | fuel + 1, power =>
    match (OnGrid.ofMagnitude magnitude power).hit? tie with
    | some digits => { digits, exponent := power }
    | none => firstHit magnitude tie fuel (power - 1)

/-- The decimal with the fewest digits that reads back as the magnitude, and the nearest one of
those. -/
def shortest (magnitude : Magnitude) (tie : Tie) : Scaled :=
  if magnitude.mantissa = 0 then
    { digits := 0, exponent := 0 }
  else
    firstHit magnitude tie gridsTried (powerAbove magnitude)

end GoCoverage.Decimal
