import GoCoverage.Text.CodeRange

/-! # Characters as bytes

The characters of a table are read byte by byte in their encoding.  A spelling gives a range for
each byte, and the bytes vary independently of each other, so a table has as many spellings as it
takes to say which bytes its characters have.

The spellings of a table make a tree.  A node of the tree is known by what can be read from it
on. -/

namespace GoCoverage.Pattern

open Text (CodeRanges)

/-- A range for each byte of an encoded character. -/
abbrev Spelling := List (Nat × Nat)

namespace Spelling

/-- The spellings of the numbers from one to another.  They have a digit that is added to the lead,
and after it so many digits to the base 64, each in a byte of its own. -/
def spread (lead : Nat) : Nat → Nat → Nat → List Spelling
  | 0, first, last => [[(lead + first, lead + last)]]
  | digits + 1, first, last =>
    let block := Nat.pow 64 (digits + 1)
    let low := first / block
    let high := last / block
    let under (digit first last : Nat) : List Spelling :=
      (spread 0x80 digits first last).map ((lead + digit, lead + digit) :: ·)
    if low = high then under low (first % block) (last % block)
    else
      -- the whole blocks have one spelling, and what is left at either end has its own
      let whole := (first + block - 1) / block
      let after := (last + 1) / block
      (if low < whole then under low (first % block) (block - 1) else []) ++
        (if whole < after then
          [(lead + whole, lead + after - 1) :: List.replicate (digits + 1) (0x80, 0xBF)]
        else []) ++
        if after ≤ high then under high 0 (last % block) else []

/-- Characters that are encoded alike: the first and the last of them, what is added to the first
digit, and how many digits follow. -/
structure Length where
  first : Nat
  last : Nat
  lead : Nat
  digits : Nat
deriving DecidableEq, Repr

/-- The lengths of encoded characters.  The code points of surrogates are no characters. -/
def lengths : List Length :=
  [⟨0, 0x7F, 0, 0⟩, ⟨0x80, 0x7FF, 0xC0, 1⟩, ⟨0x800, 0xD7FF, 0xE0, 2⟩, ⟨0xE000, 0xFFFF, 0xE0, 2⟩,
    ⟨0x10000, 0x10FFFF, 0xF0, 3⟩]

/-- The spellings of the characters of an ordered table, in their order. -/
def ofTable (table : CodeRanges) : List Spelling :=
  table.flatMap fun range => lengths.flatMap fun length =>
    let first := max range.1 length.first
    let last := min range.2 length.last
    if first ≤ last then spread length.lead length.digits first last else []

/-! ## The tree of spellings -/

/-- What can be read on from a node after each of the ranges that its first bytes lie in. -/
def next (node : List Spelling) : List (List Spelling) :=
  (node.splitBy fun spelling other => spelling.head? == other.head?).map (·.map List.tail)

/-- The nodes from which something can be read on, among some and below them down to a depth. -/
def nodes : Nat → List (List Spelling) → List (List Spelling)
  | 0, _ => []
  | depth + 1, level =>
    let inner := level.filter (·.any (!·.isEmpty))
    inner ++ nodes depth (inner.flatMap next)

end Spelling

end GoCoverage.Pattern
