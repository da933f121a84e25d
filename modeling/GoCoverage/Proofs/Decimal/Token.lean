import GoCoverage.Proofs.Decimal.Digits
import GoCoverage.Proofs.Decimal.Shortest
import GoCoverage.Proofs.Json.Tokens

/-! # Floating-point numbers as tokens

A floating-point number is finite exactly if its bits stand for a magnitude (`isFinite_iff`).  A
layout that keeps the point of whole numbers writes each finite number as the token of a JSON number
(`isNumber_write`): no zero stands at the beginning that could be left out, since the digits of a
number that is not zero begin with another digit, and digits stand on both sides of the point. -/

namespace GoCoverage.Decimal

open Json (IsDigits IsWhole IsFraction IsExponent IsUnsigned IsNumber)
open Layout (digitsOf zeros)
open Float.Model (UnpackedFloat Format)

/-! ## Finite numbers -/

theorem toNat_unpackExponent (bits : BitVec 64) :
    (@UnpackedFloat.unpackExponent Format.binary64 bits).toNat =
      bits.toNat / hiddenBit % 0x800 := by
  have hidden : hiddenBit = 2 ^ 52 := rfl
  simp [UnpackedFloat.unpackExponent, BitVec.extractLsb, Nat.shiftRight_eq_div_pow, hidden]

/-- A number is finite unless all bits of its exponent are set. -/
theorem isFinite_unpack (bits : BitVec 64) :
    (UnpackedFloat.unpack Format.binary64 bits).isFinite = true ↔
      bits.toNat / hiddenBit % 0x800 ≠ 2047 := by
  have allSet : @UnpackedFloat.unpackExponent Format.binary64 bits = -1#_ ↔
      bits.toNat / hiddenBit % 0x800 = 2047 := by
    rw [← toNat_unpackExponent, ← BitVec.toNat_inj]
    rfl
  rw [ne_eq, ← allSet]
  -- the branches carry proofs: each condition is rewritten where it stands, in their order
  delta UnpackedFloat.unpack
  by_cases isSet : @UnpackedFloat.unpackExponent Format.binary64 bits = -1#_
  · rw [iff_false_right (not_not_intro isSet), if_pos isSet]
    split <;> exact Bool.false_ne_true
  · rw [iff_true_right isSet, if_neg isSet]
    by_cases small : @UnpackedFloat.unpackExponent Format.binary64 bits = 0#_
    · rw [if_pos small]
      by_cases isZero : @UnpackedFloat.unpackMantissa Format.binary64 bits = 0#_
      · rw [dif_pos isZero]
        rfl
      · rw [dif_neg isZero]
        rfl
    · rw [if_neg small]
      rfl

/-- A number is finite if its bits stand for a magnitude, and only then. -/
theorem isFinite_iff (x : Float) :
    x.isFinite = true ↔ ∃ negative magnitude, Binary64.ofFloat x = .finite negative magnitude := by
  have unpacked : x.isFinite = true ↔ x.toBits.toNat / hiddenBit % 0x800 ≠ 2047 :=
    isFinite_unpack x.toModel.toBits.toBitVec
  rw [unpacked, Binary64.ofFloat, Binary64.ofBits]
  split
  · rename_i allSet
    split <;> simp [allSet]
  · rename_i notSet
    split <;> simp [notSet]

/-! ## Layouts -/

variable {n : Nat}

theorem isDigits_digitsOf (n : Nat) : IsDigits (digitsOf n) where
  ne_nil := Nat.toDigits_ne_nil
  isDigit _ member := isDigit_of_mem_digitsOf member

theorem isDigit_of_mem_zeros {count : Nat} {c : Char} (h : c ∈ zeros count) : c.isDigit = true := by
  rw [List.eq_of_mem_replicate h]
  decide

/-- Digits that begin with no zero, in any number, are the whole part of a number. -/
theorem isWhole_of_begins {whole : List Char} (more : List Char) (positive : 0 < n)
    (nonempty : whole ≠ []) (isDigit : ∀ c ∈ whole, c.isDigit = true)
    (begins : whole <+: digitsOf n ++ more) : IsWhole whole := by
  obtain ⟨first, others, digits, nonzero⟩ := exists_digitsOf_eq positive
  obtain ⟨d, word, rfl⟩ := List.exists_cons_of_ne_nil nonempty
  obtain ⟨rest, same⟩ := begins
  rw [digits] at same
  obtain rfl : d = first := (List.cons.inj same).1
  exact .digits nonzero { ne_nil := List.cons_ne_nil _ _, isDigit }

/-- The digits of a whole number are its token. -/
theorem isUnsigned_digitsOf (n : Nat) : IsUnsigned (digitsOf n) := by
  have isWhole : IsWhole (digitsOf n) := by
    rcases Nat.eq_zero_or_pos n with rfl | positive
    · exact .zero
    · exact isWhole_of_begins [] positive (isDigits_digitsOf n).ne_nil
        (isDigits_digitsOf n).isDigit ⟨[], by simp⟩
  have number := IsUnsigned.mk isWhole .none .none
  rwa [List.append_nil, List.append_nil] at number

/-- A whole part and a fraction are a number. -/
theorem isUnsigned_of_point {whole digits : List Char} (isWhole : IsWhole whole)
    (isDigits : IsDigits digits) : IsUnsigned (whole ++ '.' :: digits) := by
  have number := IsUnsigned.mk isWhole (.digits isDigits) .none
  rwa [List.append_nil] at number

theorem isUnsigned_inPlaces {layout : Layout} (keeps : layout.keepsPoint = true) {exponent : Int}
    (ofZero : n = 0 → exponent = 0) :
    IsUnsigned (layout.inPlaces (digitsOf n) exponent) := by
  rw [Layout.inPlaces]
  split
  · -- a whole number: zeros stand behind the digits, and none behind zero
    rename_i whole
    have isWhole : IsWhole (digitsOf n ++ zeros exponent.toNat) := by
      rcases Nat.eq_zero_or_pos n with isZero | positive
      · rw [isZero, ofZero isZero]
        exact .zero
      · refine isWhole_of_begins (zeros exponent.toNat) positive ?_ ?_ ⟨[], by simp⟩
        · exact List.append_ne_nil_of_left_ne_nil (isDigits_digitsOf n).ne_nil _
        · intro c member
          rcases List.mem_append.mp member with member | member
          · exact isDigit_of_mem_digitsOf member
          · exact isDigit_of_mem_zeros member
    exact isUnsigned_of_point isWhole { ne_nil := List.cons_ne_nil _ _, isDigit := by simp }
  · rename_i fractional
    dsimp only
    split
    · -- the point stands between digits, of which there are at least two
      rename_i fewer
      have positive : 0 < n := by
        rcases Nat.eq_zero_or_pos n with isZero | positive
        · have isInt := ofZero isZero
          omega
        · exact positive
      have count := List.length_take_of_le
        (Nat.sub_le (digitsOf n).length (-exponent).toNat)
      refine isUnsigned_of_point (isWhole_of_begins [] positive ?_ ?_ ?_) ?_
      · intro isNil
        rw [isNil, List.length_nil] at count
        omega
      · exact fun c member => isDigit_of_mem_digitsOf (List.mem_of_mem_take member)
      · rw [List.append_nil]
        exact List.take_prefix _ _
      · refine { ne_nil := ?_, isDigit := ?_ }
        · intro isNil
          have none := congrArg List.length isNil
          rw [List.length_drop, List.length_nil] at none
          omega
        · exact fun c member => isDigit_of_mem_digitsOf (List.mem_of_mem_drop member)
    · -- zeros stand between the point and the digits
      refine isUnsigned_of_point .zero { ne_nil := ?_, isDigit := ?_ }
      · exact List.append_ne_nil_of_right_ne_nil _ (isDigits_digitsOf n).ne_nil
      · intro c member
        rcases List.mem_append.mp member with member | member
        · exact isDigit_of_mem_zeros member
        · exact isDigit_of_mem_digitsOf member

theorem isExponent_of_sign (leading : Int) :
    IsExponent ('e' :: (if leading < 0 then '-' else '+') :: digitsOf leading.natAbs) := by
  split
  · exact .minus (isDigits_digitsOf _)
  · exact .plus (isDigits_digitsOf _)

theorem isUnsigned_withExponent (n : Nat) (leading : Int) :
    IsUnsigned (Layout.withExponent (digitsOf n) leading) := by
  have isDigits := isDigits_digitsOf n
  have oneDigit : ∀ d : Char, d.isDigit = true → IsWhole [d] := by
    intro d isDigit
    by_cases isZero : d = '0'
    · rw [isZero]
      exact .zero
    · exact .digits isZero { ne_nil := List.cons_ne_nil _ _, isDigit := by simpa using isDigit }
  unfold Layout.withExponent
  dsimp only
  split
  · exact absurd ‹_› isDigits.ne_nil
  · rename_i d isOne
    rw [isOne] at isDigits
    have number := IsUnsigned.mk (oneDigit d (isDigits.isDigit d List.mem_cons_self)) .none
      (isExponent_of_sign leading)
    rwa [List.append_nil] at number
  · rename_i d others several isMore
    rw [isMore] at isDigits
    have fraction : IsDigits others :=
      { ne_nil := fun isNil => several (by rw [isNil])
        isDigit := fun c member => isDigits.isDigit c (List.mem_cons_of_mem d member) }
    exact IsUnsigned.mk (oneDigit d (isDigits.isDigit d List.mem_cons_self)) (.digits fraction)
      (isExponent_of_sign leading)

/-! ## Numbers -/

theorem isUnsigned_magnitude {layout : Layout} (keeps : layout.keepsPoint = true)
    {magnitude : Magnitude} (inRange : magnitude.InRange) :
    IsUnsigned (layout.magnitude magnitude) := by
  have ofZero : (shortest magnitude layout.tie).digits = 0 →
      (shortest magnitude layout.tie).exponent = 0 := by
    intro none
    rcases Nat.eq_zero_or_pos magnitude.mantissa with isZero | nonzero
    · rw [shortest, if_pos isZero]
    · have positive := shortest_digits_pos inRange nonzero layout.tie
      omega
  rw [Layout.magnitude]
  split
  · exact isUnsigned_inPlaces keeps ofZero
  · exact isUnsigned_withExponent _ _

/-- **A finite number is written as a token**, with a sign if it has one. -/
theorem isNumber_write {layout : Layout} (keeps : layout.keepsPoint = true) {x : Float}
    (finite : x.isFinite = true) : IsNumber (layout.write x).toList := by
  obtain ⟨negative, magnitude, isFinite⟩ := (isFinite_iff x).mp finite
  have unsigned := isUnsigned_magnitude keeps (inRange_of_ofFloat isFinite)
  rw [Layout.write, isFinite, Layout.binary64, String.toList_ofList]
  cases negative with
  | true => exact .minus unsigned
  | false => exact .unsigned unsigned

end GoCoverage.Decimal
