/-! # What a 64-bit floating-point number stands for

A finite number is a sign and a magnitude `mantissa · 2 ^ exponent`; the others are the infinities
and the values that are no number.  The parts are read off the bits, so everything said about the
decimal text of a number can be said about natural numbers. -/

namespace GoCoverage.Decimal

/-- The magnitude `mantissa · 2 ^ exponent`. -/
structure Magnitude where
  mantissa : Nat
  exponent : Int
  /-- The next smaller magnitude is only half as far away as the next larger one: the mantissa is
  the least one with this exponent, and the exponent is not the least of all. -/
  narrowBelow : Bool
deriving DecidableEq, Repr

/-- What the bits of a floating-point number say. -/
inductive Binary64 where
  | finite (negative : Bool) (magnitude : Magnitude)
  | infinite (negative : Bool)
  | notANumber
deriving DecidableEq, Repr

/-- How many bits of a number hold its mantissa. -/
def mantissaBits : Nat := 52

/-- The number that stands for the mantissa's highest bit where that bit is left out. -/
def hiddenBit : Nat := Nat.pow 2 mantissaBits

/-- Bits as a sign, eleven bits of exponent and fifty-two of mantissa. -/
def Binary64.ofBits (bits : Nat) : Binary64 :=
  let negative := bits / 0x8000000000000000 % 2 == 1
  let exponent : Nat := bits / hiddenBit % 0x800
  let fraction := bits % hiddenBit
  if exponent = 2047 then
    if fraction = 0 then .infinite negative else .notANumber
  else if exponent = 0 then
    .finite negative { mantissa := fraction, exponent := -1074, narrowBelow := false }
  else
    .finite negative
      { mantissa := hiddenBit + fraction
        exponent := (exponent : Int) - 1075
        narrowBelow := fraction == 0 && 1 < exponent }

/-- What a floating-point number stands for. -/
def Binary64.ofFloat (x : Float) : Binary64 := ofBits x.toBits.toNat

end GoCoverage.Decimal
