import GoCoverage.Text.CodeRange
import GoCoverage.Unicode.Casing

/-! # Sets of characters

A pattern says of a character only whether it belongs to a set.  Sets are built from tables of
ranges and kept as they were built; whether a character belongs to one is computed from its parts.
How large a set is, and whether it holds ASCII only, is read off the one table of all that belongs
to it. -/

namespace GoCoverage.Pattern

open Text (CodeRanges)

/-- A set of code points. -/
inductive CharSet where
  | ranges (table : CodeRanges)
  /-- What belongs to either. -/
  | union (first second : CharSet)
  /-- What belongs to both. -/
  | both (first second : CharSet)
  /-- What belongs to the first and not to the second. -/
  | without (first second : CharSet)
  /-- What belongs to exactly one of them. -/
  | difference (first second : CharSet)
  | complement (set : CharSet)
  /-- What differs from a member in case only. -/
  | folded (set : CharSet)
  /-- What differs from a member in case only, among the letters of ASCII. -/
  | foldedAscii (set : CharSet)
deriving DecidableEq, Repr

/-- An ASCII letter in the other case, and any other code point as it is. -/
def otherCaseAscii (code : Nat) : Nat :=
  if 0x41 ≤ code ∧ code ≤ 0x5A then code + 0x20
  else if 0x61 ≤ code ∧ code ≤ 0x7A then code - 0x20
  else code

namespace CharSet

/-- A code point belongs to a set. -/
def holds (code : Nat) : CharSet → Bool
  | ranges table => table.contains code
  | union first second => first.holds code || second.holds code
  | both first second => first.holds code && second.holds code
  | without first second => first.holds code && !second.holds code
  | difference first second => first.holds code != second.holds code
  | complement set => !set.holds code
  | folded set => (Unicode.caseVariants code).any fun variant => set.holds variant
  | foldedAscii set => set.holds code || set.holds (otherCaseAscii code)

/-- A character belongs to a set. -/
def contains (set : CharSet) (c : Char) : Bool := set.holds c.toNat

/-- The set without members. -/
def empty : CharSet := ranges []

/-- The set of all code points. -/
def any : CharSet := complement empty

/-- The set of one character. -/
def single (c : Char) : CharSet := ranges [(c.toNat, c.toNat)]

/-- The set of several characters. -/
def ofChars (characters : List Char) : CharSet :=
  ranges (characters.map fun c => (c.toNat, c.toNat))

/-- The letters of ASCII. -/
def asciiLetters : List Nat := List.range' 0x41 26 ++ List.range' 0x61 26

/-- The code points of the set as an ordered table. -/
def table : CharSet → CodeRanges
  | ranges table => table.ordered
  | union first second => (first.table ++ second.table).ordered
  | both first second => (first.table.gaps ++ second.table.gaps).ordered.gaps
  | without first second => (first.table.gaps ++ second.table).ordered.gaps
  | difference first second =>
    ((first.table.gaps ++ second.table).ordered.gaps ++
      (first.table ++ second.table.gaps).ordered.gaps).ordered
  | complement set => set.table.gaps
  | folded set =>
    let table := set.table
    let others := (Unicode.orbits.filter (·.any table.contains)).flatten
    (table ++ others.map fun code => (code, code)).ordered
  | foldedAscii set =>
    let table := set.table
    let others := asciiLetters.filter fun code => table.contains (otherCaseAscii code)
    (table ++ others.map fun code => (code, code)).ordered

/-- No code point beyond ASCII belongs to the set. -/
def isAscii (set : CharSet) : Bool := set.table.isAscii

@[simp]
theorem contains_single (c d : Char) : (single c).contains d = decide (d = c) := by
  simp only [contains, single, holds, CodeRanges.contains, List.any_cons, List.any_nil,
    Bool.or_false]
  by_cases h : d = c
  · subst h; simp
  · have : d.toNat ≠ c.toNat := fun e => h (Char.toNat_inj.1 e)
    simp only [h, decide_false, Bool.and_eq_false_iff, decide_eq_false_iff_not]
    omega

end CharSet

end GoCoverage.Pattern
