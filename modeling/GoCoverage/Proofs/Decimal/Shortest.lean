import Mathlib.Tactic.Ring
import GoCoverage.Decimal.Shortest

/-! # A number that is not zero has digits

The grids of powers of ten are tried from above the number downward, and a point of a grid is taken
only if it reads back as the number; so the point zero is never taken for another number
(`OnGrid.pos_of_hit?`).  The last grid is fine enough for every floating-point number to stand above
its first point (`one_le_below`), so even there the digits are not zero. -/

namespace GoCoverage.Decimal

/-! ## The range of floating-point numbers -/

/-- The mantissa has 53 bits at most, and the exponent is one of a floating-point number. -/
structure Magnitude.InRange (magnitude : Magnitude) : Prop where
  mantissa_lt : magnitude.mantissa < 2 ^ 53
  le_exponent : -1074 ≤ magnitude.exponent
  exponent_le : magnitude.exponent ≤ 971

theorem inRange_of_ofBits {bits : Nat} {negative : Bool} {magnitude : Magnitude}
    (h : Binary64.ofBits bits = .finite negative magnitude) : magnitude.InRange := by
  have fractionBound : bits % hiddenBit < 2 ^ 52 := Nat.mod_lt _ (by decide)
  have exponentBound : bits / hiddenBit % 0x800 < 0x800 := Nat.mod_lt _ (by decide)
  have hidden : hiddenBit = 2 ^ 52 := rfl
  rw [Binary64.ofBits] at h
  generalize bits % hiddenBit = fraction at h fractionBound
  generalize bits / hiddenBit % 0x800 = exponent at h exponentBound
  split at h
  · split at h <;> cases h
  · split at h <;> obtain ⟨-, rfl⟩ := Binary64.finite.inj h <;> constructor <;> dsimp only <;> omega

theorem inRange_of_ofFloat {x : Float} {negative : Bool} {magnitude : Magnitude}
    (h : Binary64.ofFloat x = .finite negative magnitude) : magnitude.InRange :=
  inRange_of_ofBits h

/-! ## Points of a grid -/

namespace OnGrid

variable {g : OnGrid}

/-- The point zero lies in no interval whose lower end is above it. -/
theorem not_holds_zero (low : 0 < g.low) (unit : 0 < g.unit) : g.holds 0 = false := by
  have above : 0 < g.low * g.unit := Nat.mul_pos low unit
  rw [holds]
  split
  · simp
    omega
  · simp

theorem below_le_nearer (tie : Tie) : g.below ≤ g.nearer tie := by
  unfold nearer
  dsimp only
  repeat' split
  all_goals omega

theorem pos_of_hit? {tie : Tie} {point : Nat} (low : 0 < g.low) (unit : 0 < g.unit)
    (h : g.hit? tie = some point) : 0 < point := by
  have pos_of_holds : ∀ {n}, g.holds n = true → 0 < n := by
    intro n holds
    rcases Nat.eq_zero_or_pos n with rfl | positive
    · rw [not_holds_zero low unit] at holds
      cases holds
    · exact positive
  rw [hit?] at h
  split at h
  · rename_i holds _
    obtain rfl := Option.some.inj h
    exact Nat.lt_of_lt_of_le (pos_of_holds holds) (below_le_nearer tie)
  · rename_i holds _
    obtain rfl := Option.some.inj h
    exact pos_of_holds holds
  · obtain rfl := Option.some.inj h
    exact Nat.succ_pos _
  · cases h

end OnGrid

/-! ## The grids that are tried -/

theorem firstHit_digits_pos {magnitude : Magnitude} {tie : Tie} (nonzero : 0 < magnitude.mantissa)
    {fuel : Nat} {power : Int}
    (last : 0 < (OnGrid.ofMagnitude magnitude (power - fuel)).below) :
    0 < (firstHit magnitude tie fuel power).digits := by
  induction fuel generalizing power with
  | zero =>
    rw [Int.natCast_zero, Int.sub_zero] at last
    exact last
  | succ fuel ih =>
    rw [firstHit]
    split
    · rename_i hit
      refine OnGrid.pos_of_hit? ?_ ?_ hit
      · rw [OnGrid.ofMagnitude]
        dsimp only
        split <;> omega
      · exact Nat.mul_pos (Nat.pow_pos (by decide)) (Nat.pow_pos (by decide))
    · apply ih
      have same : power - 1 - (fuel : Int) = power - (fuel + 1 : Nat) := by omega
      rw [same]
      exact last

/-- A power of ten is not above a power of two whose exponent is far enough above the one that the
power of ten would have; both exponents may be negative, and then stand on the other side. -/
theorem ten_pow_le_two_pow {power exponent : Int} (low : -1074 ≤ exponent) (high : exponent ≤ 1023)
    (far : power = (exponent + 2) * 30103 / 100000 - 19) :
    10 ^ power.toNat * 2 ^ (-exponent).toNat ≤ 2 ^ exponent.toNat * 10 ^ (-power).toNat := by
  rcases Int.le_total 0 power with nonneg | nonpos
  · -- ten cubed is less than two to the tenth
    have noMinus : (-exponent).toNat = 0 ∧ (-power).toNat = 0 := by omega
    rw [noMinus.1, noMinus.2, pow_zero, pow_zero, mul_one, mul_one]
    refine (Nat.pow_le_pow_iff_left (n := 3) (by decide)).mp ?_
    calc (10 ^ power.toNat) ^ 3
        = (10 ^ 3) ^ power.toNat := by rw [← pow_mul, mul_comm, pow_mul]
      _ ≤ (2 ^ 10) ^ power.toNat := Nat.pow_le_pow_left (by decide) _
      _ = 2 ^ (10 * power.toNat) := by rw [← pow_mul]
      _ ≤ 2 ^ (exponent.toNat * 3) := Nat.pow_le_pow_right (by decide) (by omega)
      _ = (2 ^ exponent.toNat) ^ 3 := by rw [← pow_mul]
  · -- two to the thirty-third is less than ten to the tenth
    have noPower : power.toNat = 0 := by omega
    rw [noPower, pow_zero, one_mul]
    refine Nat.le_trans ?_ (Nat.le_mul_of_pos_left _ (Nat.pow_pos (by decide)))
    refine (Nat.pow_le_pow_iff_left (n := 10) (by decide)).mp ?_
    calc (2 ^ (-exponent).toNat) ^ 10
        = 2 ^ ((-exponent).toNat * 10) := by rw [← pow_mul]
      _ ≤ 2 ^ (33 * (-power).toNat) := Nat.pow_le_pow_right (by decide) (by omega)
      _ = (2 ^ 33) ^ (-power).toNat := by rw [← pow_mul]
      _ ≤ (10 ^ 10) ^ (-power).toNat := Nat.pow_le_pow_left (by decide) _
      _ = (10 ^ (-power).toNat) ^ 10 := by rw [← pow_mul, mul_comm, pow_mul]

/-- On the last grid that is tried the number is not below the first point. -/
theorem one_le_below {magnitude : Magnitude} (inRange : magnitude.InRange)
    (nonzero : 0 < magnitude.mantissa) :
    0 < (OnGrid.ofMagnitude magnitude (powerAbove magnitude - gridsTried)).below := by
  obtain ⟨mantissa, exponent, narrowBelow⟩ := magnitude
  obtain ⟨bound, low, high⟩ := inRange
  dsimp only at bound low high nonzero
  have log : mantissa.log2 ≤ 52 := by
    have := (Nat.log2_lt (by omega)).mpr bound
    omega
  have size : 2 ^ mantissa.log2 ≤ mantissa := Nat.log2_self_le (by omega)
  have far : powerAbove ⟨mantissa, exponent, narrowBelow⟩ - gridsTried =
      ((mantissa.log2 + exponent) + 2) * 30103 / 100000 - 19 := by
    rw [powerAbove, gridsTried]
    dsimp only
    omega
  have powers := ten_pow_le_two_pow (by omega) (by omega) far
  generalize powerAbove ⟨mantissa, exponent, narrowBelow⟩ - gridsTried = power at powers ⊢
  refine Nat.div_pos ?_ (Nat.mul_pos (Nat.pow_pos (by decide)) (Nat.pow_pos (by decide)))
  refine Nat.le_of_mul_le_mul_right (c := 2 ^ (-(mantissa.log2 + exponent)).toNat) ?_
    (Nat.pow_pos (by decide))
  have exponents : (2 - exponent).toNat + (mantissa.log2 + exponent).toNat =
      2 + mantissa.log2 + (exponent - 2).toNat + (-(mantissa.log2 + exponent)).toNat := by
    omega
  calc 2 ^ (2 - exponent).toNat * 10 ^ power.toNat * 2 ^ (-(mantissa.log2 + exponent)).toNat
      ≤ 2 ^ (2 - exponent).toNat *
          (2 ^ (mantissa.log2 + exponent).toNat * 10 ^ (-power).toNat) := by
        rw [Nat.mul_assoc]
        exact Nat.mul_le_mul_left _ powers
    _ = 2 ^ 2 * 2 ^ mantissa.log2 * (2 ^ (exponent - 2).toNat * 10 ^ (-power).toNat) *
          2 ^ (-(mantissa.log2 + exponent)).toNat := by
        rw [← mul_assoc, ← pow_add, exponents]
        ring
    _ ≤ 4 * mantissa * (2 ^ (exponent - 2).toNat * 10 ^ (-power).toNat) *
          2 ^ (-(mantissa.log2 + exponent)).toNat :=
        Nat.mul_le_mul_right _ (Nat.mul_le_mul_right _ (Nat.mul_le_mul_left 4 size))

/-- **The digits of a number that is not zero are not zero.** -/
theorem shortest_digits_pos {magnitude : Magnitude} (inRange : magnitude.InRange)
    (nonzero : 0 < magnitude.mantissa) (tie : Tie) : 0 < (shortest magnitude tie).digits := by
  rw [shortest, if_neg (by omega)]
  exact firstHit_digits_pos nonzero (one_le_below inRange nonzero)

end GoCoverage.Decimal
