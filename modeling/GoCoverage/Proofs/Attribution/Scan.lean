import GoCoverage.Proofs.Lines.Least
import Mathlib.Data.List.Forall2
import Mathlib.Data.List.TakeWhile

/-! # One pass over the blocks

The scan looks at each block as few times as it can.  It leaves a block behind for good once a span
begins after the block has ended, and it stops looking for the lines of a span at the first block
that begins after the span.  A rescan does neither.

What has been left behind has ended before all later spans too, because spans are ordered by where
they begin.  So each span is scanned as if it were the only one (`scanBlocks_eq_map`), whatever the
order of the blocks.  Stopping early does need an order: the scan makes the table of a span from the
blocks in its reach (`least_linesOfSpan`), and all blocks that overlap a span are in its reach if
the blocks are ordered by where they begin (`inReach_of_sorted`). -/

namespace GoCoverage

open Text (Position Span)
open Profile (Block)

variable {span : Span} {spans : List Span} {block : Block} {blocks : List Block}

/-! ## What a span leaves behind -/

theorem endsBefore_of_le {position later : Position} (h : block.endsBefore position)
    (le : position ≤ later) : block.endsBefore later := by
  have ended : block.finish ≤ position := by simpa [Span.endsBefore] using h
  simpa [Span.endsBefore] using Position.le_trans ended le

/-- What one condition drops need not be dropped before a weaker condition drops it. -/
theorem dropWhile_dropWhile_of_imp {α : Type} {p q : α → Bool} (h : ∀ a, p a → q a)
    (list : List α) : (list.dropWhile p).dropWhile q = list.dropWhile q := by
  conv_rhs => rw [← List.takeWhile_append_dropWhile (p := p) (l := list)]
  exact (List.dropWhile_append_of_pos fun a m => h a (List.mem_takeWhile_imp m)).symm

/-- Dropping stops at the latest at an element that is not to be dropped. -/
theorem dropWhile_append_cons_of_neg {α : Type} {p : α → Bool} {a : α} (h : ¬ p a)
    (list rest : List α) : (list ++ a :: rest).dropWhile p = list.dropWhile p ++ a :: rest := by
  rw [List.dropWhile_append, List.dropWhile_cons_of_neg h]
  split
  · rename_i none
    rw [List.isEmpty_iff.mp none, List.nil_append]
  · rfl

/-- **Each span is scanned as if it were the only one.**  The induction is on the spans; what the
first one leaves behind would be left behind by all others too, because they begin later. -/
theorem scanBlocks_eq_map (ordered : spans.Pairwise (·.start ≤ ·.start)) (blocks : List Block) :
    scanBlocks spans blocks =
      spans.map fun span => linesOfSpan span (blocks.dropWhile (·.endsBefore span.start)) := by
  induction spans generalizing blocks with
  | nil => rfl
  | cons span spans ih =>
    obtain ⟨first, ordered⟩ := List.pairwise_cons.mp ordered
    rw [scanBlocks, List.map_cons, ih ordered]
    congr 1
    refine List.map_congr_left fun later member => ?_
    rw [dropWhile_dropWhile_of_imp fun block h => endsBefore_of_le h (first later member)]

/-- There is one table for each span. -/
theorem length_scanBlocks (spans : List Span) (blocks : List Block) :
    (scanBlocks spans blocks).length = spans.length := by
  induction spans generalizing blocks with
  | nil => rfl
  | cons span spans ih => rw [scanBlocks, List.length_cons, List.length_cons, ih]

/-! ## Where the scan stops -/

/-- The scan for a span gets as far as a block: the blocks before it are some that have ended before
the span, and after these some that do not begin after the span. -/
def InReach (span : Span) (blocks : List Block) (block : Block) : Prop :=
  ∃ behind passed rest, blocks = behind ++ passed ++ block :: rest ∧
    (∀ b ∈ behind, b.endsBefore span.start) ∧ ∀ b ∈ passed, ¬ b.startsAfter span.finish

/-- The scan uses the blocks in the reach of the span that overlap it. -/
theorem mem_scanned_iff :
    block ∈ ((blocks.dropWhile (·.endsBefore span.start)).takeWhile fun b =>
        !b.startsAfter span.finish).filter (fun b => !b.endsBefore span.start) ↔
      InReach span blocks block ∧
        ¬ block.endsBefore span.start ∧ ¬ block.startsAfter span.finish := by
  rw [List.mem_filter]
  constructor
  · rintro ⟨member, notBefore⟩
    have notAfter := List.mem_takeWhile_imp member
    obtain ⟨passed, rest, split⟩ := List.append_of_mem member
    refine ⟨⟨blocks.takeWhile (·.endsBefore span.start), passed,
      rest ++ (blocks.dropWhile (·.endsBefore span.start)).dropWhile fun b =>
        !b.startsAfter span.finish, ?_, ?_, ?_⟩, by simpa using notBefore, by simpa using notAfter⟩
    · rw [List.append_assoc, ← List.cons_append, ← List.append_assoc passed, ← split,
        List.takeWhile_append_dropWhile, List.takeWhile_append_dropWhile]
    · intro b member
      have ended := List.mem_takeWhile_imp member
      exact ended
    · intro b member
      have known := List.mem_append_left (block :: rest) member
      rw [← split] at known
      simpa using List.mem_takeWhile_imp known
  · rintro ⟨⟨behind, passed, rest, rfl, ended, going⟩, notBefore, notAfter⟩
    refine ⟨?_, by simpa using notBefore⟩
    -- blocks that are passed may be left behind too, but the block itself is not
    have ahead : (passed ++ block :: rest).dropWhile (·.endsBefore span.start) =
        passed.dropWhile (·.endsBefore span.start) ++ block :: rest := by
      refine dropWhile_append_cons_of_neg ?_ passed rest
      exact notBefore
    rw [List.append_assoc, List.dropWhile_append_of_pos ended, ahead,
      List.takeWhile_append_of_pos, List.takeWhile_cons_of_pos (by simpa using notAfter)]
    · exact List.mem_append_right _ List.mem_cons_self
    · intro b member
      simpa using going b ((List.dropWhile_sublist _).subset member)

/-- The counts that a line of a span has from the blocks in its reach: those of the blocks that
cover the line and have neither ended before the span nor begin after it. -/
def countsInReach (span : Span) (blocks : List Block) (number : Nat) : Set Nat :=
  {hits | ∃ block, InReach span blocks block ∧ ¬ block.endsBefore span.start ∧
    ¬ block.startsAfter span.finish ∧ block.start.line ≤ number ∧ number ≤ block.finish.line ∧
    block.hits = hits}

/-- **The table of a span is made from the blocks in its reach**, in whatever order the blocks
are. -/
theorem least_linesOfSpan (span : Span) (blocks : List Block) :
    (linesOfSpan span (blocks.dropWhile (·.endsBefore span.start))).Least
      (countsInReach span blocks) := by
  refine (least_linesOfBlocks _).congr fun number => ?_
  ext hits
  simp only [countsOfBlocks, countsInReach, Set.mem_ofPred_eq, mem_scanned_iff, and_assoc]

/-- What is in reach is a block of the file. -/
theorem InReach.mem (h : InReach span blocks block) : block ∈ blocks := by
  obtain ⟨behind, passed, rest, rfl, _⟩ := h
  exact List.mem_append_right _ List.mem_cons_self

/-- **Every block that overlaps a span is in its reach if the blocks are ordered** by where they
begin: none that begins after the span stands before it. -/
theorem inReach_of_sorted (sorted : blocks.Pairwise (·.start ≤ ·.start)) (member : block ∈ blocks)
    (notAfter : ¬ block.startsAfter span.finish) : InReach span blocks block := by
  obtain ⟨passed, rest, rfl⟩ := List.append_of_mem member
  refine ⟨[], passed, rest, rfl, by simp, fun b isPassed after => notAfter ?_⟩
  have le : b.start ≤ block.start :=
    (List.pairwise_append.mp sorted).2.2 b isPassed block List.mem_cons_self
  have after : span.finish ≤ b.start := by simpa [Span.startsAfter] using after
  simpa [Span.startsAfter] using Position.le_trans after le

/-- Nothing is out of reach if the blocks are ordered. -/
theorem countsInReach_eq_of_sorted (sorted : blocks.Pairwise (·.start ≤ ·.start)) (span : Span)
    (number : Nat) : countsInReach span blocks number = countsInSpan span blocks number := by
  ext hits
  constructor
  · rintro ⟨block, reached, notBefore, notAfter, covers⟩
    exact ⟨block, reached.mem, notBefore, notAfter, covers⟩
  · rintro ⟨block, member, notBefore, notAfter, covers⟩
    exact ⟨block, inReach_of_sorted sorted member notAfter, notBefore, notAfter, covers⟩

/-! ## The scan against the rescan -/

/-- The table of a span tells of all blocks that overlap it if the blocks are ordered. -/
theorem least_linesOfSpan_of_sorted (sorted : blocks.Pairwise (·.start ≤ ·.start)) (span : Span) :
    (linesOfSpan span (blocks.dropWhile (·.endsBefore span.start))).Least
      (countsInSpan span blocks) :=
  (least_linesOfSpan span blocks).congr (countsInReach_eq_of_sorted sorted span)

/-- The scan and the rescan agree on blocks that are ordered by where they begin. -/
theorem scanBlocks_eq_rescanBlocks (ordered : spans.Pairwise (·.start ≤ ·.start))
    (sorted : blocks.Pairwise (·.start ≤ ·.start)) :
    scanBlocks spans blocks = rescanBlocks spans blocks := by
  rw [scanBlocks_eq_map ordered]
  refine List.map_congr_left fun span _ => ?_
  exact (least_linesOfSpan_of_sorted sorted span).unique
    (least_linesOfBlocks_overlapping span blocks)

/-- **One pass loses nothing.**  If the spans and the blocks are ordered by where they begin, the
scan gives each span the table that all blocks give it: a line is listed if a block covers it that
has neither ended before the span nor begins after it, and its hits are the smallest count of those
blocks.  Blocks may overlap, nest, repeat, reach over several spans or end before they begin. -/
theorem scan_lists_least (ordered : spans.Pairwise (·.start ≤ ·.start))
    (sorted : blocks.Pairwise (·.start ≤ ·.start)) :
    scanBlocks spans blocks = rescanBlocks spans blocks ∧
      List.Forall₂
        (fun span table => ∀ number,
          ((table.get? number).isSome ↔ (countsInSpan span blocks number).Nonempty) ∧
            ∀ hits, table.get? number = some hits ↔
              IsLeast (countsInSpan span blocks number) hits)
        spans (scanBlocks spans blocks) := by
  refine ⟨scanBlocks_eq_rescanBlocks ordered sorted, ?_⟩
  rw [scanBlocks_eq_map ordered, List.forall₂_map_right_iff, List.forall₂_same]
  intro span _ number
  have least := least_linesOfSpan_of_sorted sorted span number
  exact ⟨least.isSome_iff, least⟩

/-- Two functions on one line, and one on the lines after it. -/
def neighbours : List Span :=
  [⟨⟨3, 1⟩, ⟨3, 12⟩⟩, ⟨⟨3, 14⟩, ⟨3, 30⟩⟩, ⟨⟨4, 1⟩, ⟨9, 2⟩⟩]

/-- Blocks that meet the ends of functions, repeat, nest, reach over functions and end before they
begin. -/
def crossingBlocks : List Block :=
  [⟨⟨⟨3, 10⟩, ⟨3, 14⟩⟩, 1, 2⟩, ⟨⟨⟨3, 10⟩, ⟨3, 14⟩⟩, 1, 2⟩, ⟨⟨⟨3, 12⟩, ⟨6, 5⟩⟩, 1, 7⟩,
    ⟨⟨⟨5, 2⟩, ⟨6, 1⟩⟩, 1, 4⟩, ⟨⟨⟨5, 3⟩, ⟨2, 1⟩⟩, 1, 0⟩, ⟨⟨⟨6, 1⟩, ⟨12, 1⟩⟩, 1, 5⟩]

theorem scan_lists_least_neighbours :
    neighbours.Pairwise (·.start ≤ ·.start) ∧ crossingBlocks.Pairwise (·.start ≤ ·.start) ∧
      scanBlocks neighbours crossingBlocks = rescanBlocks neighbours crossingBlocks ∧
      List.Forall₂
        (fun span table => ∀ number,
          ((table.get? number).isSome ↔ (countsInSpan span crossingBlocks number).Nonempty) ∧
            ∀ hits, table.get? number = some hits ↔
              IsLeast (countsInSpan span crossingBlocks number) hits)
        neighbours (scanBlocks neighbours crossingBlocks) :=
  ⟨by decide, by decide, scan_lists_least (by decide) (by decide)⟩

end GoCoverage
