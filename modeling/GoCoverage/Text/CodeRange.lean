/-! # Ranges of code points

Unicode properties are given by tables of closed ranges of code points.  A table says which
characters have the property and nothing else, so a set of characters is a value that can be
searched, joined and compared.  A table is ordered if its ranges ascend and do not touch; then it is
the only such table of its code points. -/

namespace GoCoverage.Text

/-- A set of code points as a table of closed ranges. -/
abbrev CodeRanges := List (Nat × Nat)

namespace CodeRanges

/-- The code point lies in one of the ranges. -/
def contains (table : CodeRanges) (code : Nat) : Bool :=
  table.any fun range => range.1 ≤ code && code ≤ range.2

/-- No code point beyond ASCII lies in the table. -/
def isAscii (table : CodeRanges) : Bool := table.all fun range => range.2 < 0x80

/-- The largest code point. -/
def lastCode : Nat := 0x10FFFF

/-- An ordered table with one more range.  The ranges that it touches become one with it. -/
def put (first last : Nat) : CodeRanges → CodeRanges
  | [] => [(first, last)]
  | (low, high) :: table =>
    if last + 1 < low then (first, last) :: (low, high) :: table
    else if high + 1 < first then (low, high) :: put first last table
    else put (min first low) (max last high) table

/-- The ordered table of the same code points. -/
def ordered (table : CodeRanges) : CodeRanges :=
  table.foldr (fun range table => if range.1 ≤ range.2 then put range.1 range.2 table else table) []

/-- The code points from one on that lie in no range of an ordered table. -/
def gapsFrom (first : Nat) : CodeRanges → CodeRanges
  | [] => if first ≤ lastCode then [(first, lastCode)] else []
  | (low, high) :: table =>
    if first < low then (first, low - 1) :: gapsFrom (high + 1) table
    else gapsFrom (high + 1) table

/-- The code points that lie in no range of an ordered table. -/
def gaps (table : CodeRanges) : CodeRanges := gapsFrom 0 table

end CodeRanges

end GoCoverage.Text
