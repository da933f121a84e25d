import GoCoverage.Proofs.Attribution.Scan

/-! # A scan without any order

If spans or blocks are out of order, the scan loses lines: a block may have been left behind by an
earlier span, and a block that begins too late may end the scan too soon.  What it does not do is
invent any.  Wherever it has got to, what is ahead of it is an end of the list of blocks
(`forall₂_scanned`), and of these blocks it uses some that overlap the span.  So a table tells of
some of the blocks that a rescan uses, and of no others (`scan_never_invents`): it has no line that
no such block covers, and no count that is smaller than the count of the rescan. -/

namespace GoCoverage

open Text (Span)
open Profile (Block)

variable {span : Span} {blocks : List Block}

/-- **Wherever the scan has got to, an end of the blocks is ahead.**  The induction is on the spans;
what a span leaves ahead is an end of what was ahead of it. -/
theorem forall₂_scanned (spans : List Span) {ahead : List Block} (isEnd : ahead <:+ blocks) :
    List.Forall₂ (fun span table => ∃ ahead, ahead <:+ blocks ∧ table = linesOfSpan span ahead)
      spans (scanBlocks spans ahead) := by
  induction spans generalizing ahead with
  | nil => exact .nil
  | cons span spans ih =>
    have left : ahead.dropWhile (·.endsBefore span.start) <:+ blocks :=
      (List.dropWhile_suffix _).trans isEnd
    exact .cons ⟨_, left, rfl⟩ (ih left)

/-- The table of a span tells of some of the blocks that overlap the span, in their order. -/
theorem exists_seen {ahead : List Block} (isEnd : ahead <:+ blocks) (span : Span) :
    ∃ seen, seen.Sublist (blocks.filter (·.overlaps span)) ∧
      linesOfSpan span ahead = linesOfBlocks seen := by
  refine ⟨_, ?_, rfl⟩
  have reached : (ahead.takeWhile fun b => !b.startsAfter span.finish).Sublist blocks :=
    (List.takeWhile_sublist _).trans isEnd.sublist
  -- what is reached does not begin after the span, so it overlaps unless it has ended before
  have same : (ahead.takeWhile fun b => !b.startsAfter span.finish).filter
      (fun b => !b.endsBefore span.start) =
        (ahead.takeWhile fun b => !b.startsAfter span.finish).filter (·.overlaps span) := by
    refine List.filter_congr fun block member => ?_
    have notAfter := List.mem_takeWhile_imp member
    rw [Span.overlaps, notAfter, Bool.and_true]
  rw [same]
  exact reached.filter _

/-- Blocks that overlap a span give a line the counts that it has in the span. -/
theorem countsOfBlocks_subset {seen : List Block}
    (some : seen.Sublist (blocks.filter (·.overlaps span))) (number : Nat) :
    countsOfBlocks seen number ⊆ countsInSpan span blocks number := by
  rintro hits ⟨block, member, covers⟩
  obtain ⟨isBlock, overlaps⟩ := List.mem_filter.mp (some.subset member)
  simp only [Span.overlaps, Bool.and_eq_true, Bool.not_eq_true'] at overlaps
  exact ⟨block, isBlock, by simp [overlaps.1], by simp [overlaps.2], covers⟩

/-- Numbers that are some at all have a least one, which is not above any of them. -/
theorem exists_isLeast_le {counts : Set Nat} {hits : Nat} (member : hits ∈ counts) :
    ∃ least ≤ hits, IsLeast counts least := by
  by_contra none
  refine (Set.eq_empty_iff_forall_notMem.mp (eq_empty_of_no_least fun least isLeast => ?_)) hits
    member
  exact none ⟨least, isLeast.2 member, isLeast⟩

/-- A table of a span tells of some of the blocks that overlap the span, and of nothing else. -/
structure TellsOfSome (blocks : List Block) (span : Span) (table : Lines) : Prop where
  ascending : table.toList.Pairwise (fun first second => first.number < second.number)
  /-- Each line has the smallest count of those of the blocks that cover it. -/
  seen : ∃ seen, seen.Sublist (blocks.filter (·.overlaps span)) ∧
    ∀ number hits, table.get? number = some hits ↔ IsLeast (countsOfBlocks seen number) hits
  /-- A line has its count from a block that overlaps the span and covers the line. -/
  covered : ∀ number hits, table.get? number = some hits → ∃ block ∈ blocks, block.overlaps span ∧
    block.start.line ≤ number ∧ number ≤ block.finish.line ∧ block.hits = hits
  /-- No count is below the smallest one of all blocks that overlap the span. -/
  not_below : ∀ number hits, table.get? number = some hits →
    ∃ least ≤ hits, IsLeast (countsInSpan span blocks number) least

/-- What some of the overlapping blocks make. -/
theorem tellsOfSome_linesOfBlocks {seen : List Block}
    (some : seen.Sublist (blocks.filter (·.overlaps span))) :
    TellsOfSome blocks span (linesOfBlocks seen) where
  ascending := (linesOfBlocks seen).ascending
  seen := ⟨seen, some, least_linesOfBlocks seen⟩
  covered := by
    intro number hits listed
    obtain ⟨block, member, covers⟩ := ((least_linesOfBlocks seen number hits).mp listed).1
    obtain ⟨isBlock, overlaps⟩ := List.mem_filter.mp (some.subset member)
    exact ⟨block, isBlock, overlaps, covers⟩
  not_below := by
    intro number hits listed
    have counted := ((least_linesOfBlocks seen number hits).mp listed).1
    exact exists_isLeast_le (countsOfBlocks_subset some number counted)

/-- **Out of order, the scan loses lines and invents none.**  Take any spans and any blocks, in
whatever order they are.  Each table tells of some of the blocks that overlap its span and of
nothing else, so every line of it is a line of the rescan, with no smaller count than the rescan
has. -/
theorem scan_never_invents (spans : List Span) (blocks : List Block) :
    List.Forall₂ (TellsOfSome blocks) spans (scanBlocks spans blocks) ∧
      List.Forall₂
        (fun table full => ∀ number hits, table.get? number = some hits →
          ∃ least ≤ hits, full.get? number = some least)
        (scanBlocks spans blocks) (rescanBlocks spans blocks) := by
  have tells : List.Forall₂ (TellsOfSome blocks) spans (scanBlocks spans blocks) := by
    refine (forall₂_scanned spans List.suffix_rfl).imp ?_
    rintro span table ⟨ahead, isEnd, rfl⟩
    obtain ⟨seen, some, isTable⟩ := exists_seen isEnd span
    exact isTable ▸ tellsOfSome_linesOfBlocks some
  refine ⟨tells, ?_⟩
  rw [rescanBlocks, List.forall₂_map_right_iff]
  refine List.Forall₂.flip (tells.imp fun span table told number hits listed => ?_)
  obtain ⟨least, le, isLeast⟩ := told.not_below number hits listed
  exact ⟨least, le, (least_linesOfBlocks_overlapping span blocks number least).mpr isLeast⟩

/-- A function that stands first in the list and last in the text takes the block of the other one
away, and a block that begins after both keeps the first one from its own. -/
example : scanBlocks [⟨⟨5, 1⟩, ⟨6, 2⟩⟩, ⟨⟨1, 1⟩, ⟨2, 2⟩⟩]
      [⟨⟨⟨1, 3⟩, ⟨2, 1⟩⟩, 1, 1⟩, ⟨⟨⟨5, 4⟩, ⟨5, 9⟩⟩, 1, 3⟩, ⟨⟨⟨8, 1⟩, ⟨9, 1⟩⟩, 1, 2⟩,
        ⟨⟨⟨5, 2⟩, ⟨6, 1⟩⟩, 1, 0⟩] =
    [.run 5 5 3, .empty] := by
  decide +kernel

end GoCoverage
