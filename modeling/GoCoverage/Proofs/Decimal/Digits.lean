import GoCoverage.Decimal.Layout

/-! # Decimal digits of numbers

The digits of a natural number are its own: no other number has them, and only those of zero begin
with the digit zero.  A sign keeps negative numbers apart from the others. -/

namespace GoCoverage.Decimal

open Layout (digitsOf)

variable {n m : Nat}

theorem digitsOf_inj : digitsOf n = digitsOf m ↔ n = m := by
  constructor
  · intro same
    have value := congrArg (Nat.ofDigitChars 10 · 0) same
    simpa only [digitsOf, Nat.ofDigitChars_ten_toDigits] using value
  · exact congrArg digitsOf

theorem isDigit_of_mem_digitsOf {c : Char} (h : c ∈ digitsOf n) : c.isDigit = true :=
  Nat.isDigit_of_mem_toDigits (by decide) (by decide) h

/-- The digits of a number that is not zero begin with another digit. -/
theorem exists_digitsOf_eq (positive : 0 < n) :
    ∃ first others, digitsOf n = first :: others ∧ first ≠ '0' := by
  induction n using Nat.strongRecOn with
  | ind n ih =>
    by_cases small : n < 10
    · refine ⟨Nat.digitChar n, [], Nat.toDigits_of_lt_base small, ?_⟩
      have nonzero : ∀ digit : Fin 10, 0 < digit.val → Nat.digitChar digit ≠ '0' := by decide
      exact nonzero ⟨n, small⟩ positive
    · obtain ⟨first, others, digits, nonzero⟩ := ih (n / 10) (by omega) (by omega)
      refine ⟨first, others ++ [Nat.digitChar (n % 10)], ?_, nonzero⟩
      rw [digitsOf] at digits
      rw [digitsOf, Nat.toDigits_of_base_le (by decide) (by omega), digits, List.cons_append]

theorem toList_toString (n : Nat) : (toString n).toList = digitsOf n := by
  rw [Nat.toString_eq_repr, Nat.toList_repr, digitsOf]

theorem toString_nat_inj : toString n = toString m ↔ n = m := by
  rw [← String.toList_inj, toList_toString, toList_toString, digitsOf_inj]

theorem toList_toString_int (z : Int) :
    (toString z).toList = (if z < 0 then ['-'] else []) ++ digitsOf z.natAbs := by
  rw [Int.toString_eq_repr, Int.repr_eq_if]
  by_cases negative : z < 0
  · have minus : "-".toList = ['-'] := rfl
    have abs : (-z).toNat = z.natAbs := by omega
    rw [if_neg (by omega), if_pos negative, String.toList_append, Nat.toList_repr, abs, minus,
      digitsOf]
  · have abs : z.toNat = z.natAbs := by omega
    rw [if_pos (by omega), if_neg negative, Nat.toList_repr, abs, List.nil_append, digitsOf]

theorem toString_int_inj {z w : Int} : toString z = toString w ↔ z = w := by
  constructor
  · intro same
    have same := congrArg String.toList same
    rw [toList_toString_int, toList_toString_int] at same
    have noSign : ∀ n m : Nat, ['-'] ++ digitsOf n ≠ [] ++ digitsOf m := by
      intro n m signed
      have member : '-' ∈ digitsOf m := by
        rw [List.nil_append] at signed
        rw [← signed]
        exact List.mem_cons_self
      exact absurd (isDigit_of_mem_digitsOf member) (by decide)
    by_cases hz : z < 0 <;> by_cases hw : w < 0
    · rw [if_pos hz, if_pos hw] at same
      have abs := digitsOf_inj.mp (List.append_cancel_left same)
      omega
    · rw [if_pos hz, if_neg hw] at same
      exact absurd same (noSign _ _)
    · rw [if_neg hz, if_pos hw] at same
      exact absurd same.symm (noSign _ _)
    · rw [if_neg hz, if_neg hw] at same
      have abs := digitsOf_inj.mp (List.append_cancel_left same)
      omega
  · exact congrArg toString

end GoCoverage.Decimal
