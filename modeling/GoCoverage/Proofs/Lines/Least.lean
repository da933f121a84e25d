import GoCoverage.Attribution
import GoCoverage.Lines.View
import GoCoverage.Report.Tree
import Mathlib.Order.Bounds.Basic
import Mathlib.Order.Nat

/-! # Tables of least counts

Whatever a line table is made from, it is meant to hold the same thing: every line that has been
counted at all, with the smallest of its counts.  `Lines.Least` says so of a table and of the counts
that each line has.  It determines the table (`Least.unique`), and it is kept by joining tables:
then a line has the counts that it has on either side (`Least.merge`).  So the lines of several
blocks, and those of several methods, are described by an induction over the list
(`least_foldl`). -/

namespace GoCoverage

open Text (Span)
open Profile (Block)

/-! ## The smallest count of one line -/

/-- Numbers that have no least one are none at all. -/
theorem eq_empty_of_no_least {counts : Set Nat} (h : ∀ hits, ¬ IsLeast counts hits) :
    counts = ∅ := by
  rw [Set.eq_empty_iff_forall_notMem]
  intro hits
  induction hits using Nat.strongRecOn with
  | ind hits ih =>
    intro member
    refine h hits ⟨member, fun other isCount => ?_⟩
    by_contra less
    exact ih other (Nat.lt_of_not_le less) isCount

/-- An answer is the least of some numbers if there are any, and none otherwise. -/
def LeastOf (answer : Option Nat) (counts : Set Nat) : Prop :=
  ∀ hits, answer = some hits ↔ IsLeast counts hits

namespace LeastOf

variable {answer other : Option Nat} {counts others : Set Nat}

theorem none_iff : LeastOf none counts ↔ counts = ∅ := by
  constructor
  · intro h
    exact eq_empty_of_no_least fun hits least => by simpa using (h hits).mpr least
  · rintro rfl hits
    simp [IsLeast]

theorem some_iff {hits : Nat} : LeastOf (some hits) counts ↔ IsLeast counts hits := by
  constructor
  · intro h
    exact (h hits).mp rfl
  · intro least hits'
    rw [Option.some.injEq]
    exact ⟨fun same => same ▸ least, fun least' => least.unique least'⟩

/-- There is an answer exactly where there is a number. -/
theorem isSome_iff (h : LeastOf answer counts) : answer.isSome ↔ counts.Nonempty := by
  cases answer with
  | none => simp [none_iff.mp h]
  | some hits => simpa using (some_iff.mp h).nonempty

/-- Numbers can be left out while there are smaller ones. -/
theorem of_subset (h : LeastOf answer counts) (subset : others ⊆ counts)
    (below : ∀ hits ∈ counts, ∃ other ∈ others, other ≤ hits) : LeastOf answer others := by
  intro hits
  rw [h hits]
  constructor
  · rintro ⟨member, least⟩
    obtain ⟨other, isOther, less⟩ := below hits member
    obtain rfl : other = hits := Nat.le_antisymm less (least (subset isOther))
    exact ⟨isOther, fun count isCount => least (subset isCount)⟩
  · rintro ⟨member, least⟩
    refine ⟨subset member, fun count isCount => ?_⟩
    obtain ⟨other, isOther, less⟩ := below count isCount
    exact Nat.le_trans (least isOther) less

/-- The smaller of two answers is the answer for all numbers of both. -/
theorem merge (h : LeastOf answer counts) (h' : LeastOf other others) :
    LeastOf (Option.merge min answer other) (counts ∪ others) := by
  cases answer with
  | none => simpa [none_iff.mp h] using h'
  | some hits =>
    cases other with
    | none => simpa [none_iff.mp h'] using h
    | some hits' => exact some_iff.mpr ((some_iff.mp h).union (some_iff.mp h'))

end LeastOf

/-! ## The smallest counts of all lines -/

namespace Lines

/-- The table lists every line that has a count, with the smallest of its counts, and no other. -/
def Least (lines : Lines) (counts : Nat → Set Nat) : Prop :=
  ∀ number, LeastOf (lines.get? number) (counts number)

namespace Least

variable {lines others : Lines} {counts counts' : Nat → Set Nat}

/-- **A table is determined by the counts of its lines.** -/
theorem unique (h : lines.Least counts) (h' : others.Least counts) : lines = others := by
  apply ext_get?
  intro number
  apply Option.ext
  intro hits
  rw [h number hits, h' number hits]

theorem congr (h : lines.Least counts) (same : ∀ number, counts number = counts' number) :
    lines.Least counts' :=
  fun number => same number ▸ h number

theorem empty : Lines.empty.Least fun _ => ∅ := fun _ => LeastOf.none_iff.mpr rfl

/-- **Joining tables puts the counts of each line together.** -/
theorem merge (h : lines.Least counts) (h' : others.Least counts') :
    (lines.merge others).Least fun number => counts number ∪ counts' number := by
  intro number
  rw [get?_merge]
  exact (h number).merge (h' number)

/-- Every line in a run has the count of the run. -/
theorem run (first last hits : Nat) :
    (Lines.run first last hits).Least fun number =>
      {count | first ≤ number ∧ number ≤ last ∧ hits = count} := by
  intro number
  rw [get?_run]
  split
  · rename_i inside
    refine LeastOf.some_iff.mpr ⟨⟨inside.1, inside.2, rfl⟩, ?_⟩
    rintro count ⟨_, _, rfl⟩
    exact Nat.le_refl hits
  · rename_i outside
    refine LeastOf.none_iff.mpr (Set.eq_empty_iff_forall_notMem.mpr ?_)
    rintro count ⟨first', last', _⟩
    exact outside ⟨first', last'⟩

/-- A table stands for the counts that it lists. -/
theorem self (lines : Lines) :
    lines.Least fun number => {hits | lines.get? number = some hits} := by
  intro number
  show LeastOf (lines.get? number) {hits | lines.get? number = some hits}
  cases lines.get? number with
  | none => exact LeastOf.none_iff.mpr (by simp)
  | some hits => exact LeastOf.some_iff.mpr (by simp)

end Least

theorem empty_merge (lines : Lines) : empty.merge lines = lines := by
  apply ext_get?
  intro number
  rw [get?_merge, get?_empty, Option.merge_none_left]

/-- Tables joined one after the other: a line has the counts that it has in any of them. -/
theorem least_foldl {α : Type} {table : α → Lines} {counts : α → Nat → Set Nat} {list : List α}
    (each : ∀ a ∈ list, (table a).Least (counts a)) {start : Lines} {before : Nat → Set Nat}
    (h : start.Least before) :
    (list.foldl (fun lines a => lines.merge (table a)) start).Least fun number =>
      before number ∪ {hits | ∃ a ∈ list, hits ∈ counts a number} := by
  induction list generalizing start before with
  | nil => exact h.congr fun number => by simp
  | cons a list ih =>
    have joined := h.merge (each a List.mem_cons_self)
    refine (ih (fun b member => each b (List.mem_cons_of_mem a member)) joined).congr ?_
    intro number
    ext hits
    simp [or_assoc]

end Lines

/-! ## Blocks and methods -/

/-- The counts that a line has from blocks: those of the blocks that cover it. -/
def countsOfBlocks (blocks : List Block) (number : Nat) : Set Nat :=
  {hits | ∃ block ∈ blocks,
    block.start.line ≤ number ∧ number ≤ block.finish.line ∧ block.hits = hits}

/-- The counts that a line of a span has from blocks: those of the blocks that cover the line and
have neither ended before the span nor begin after it. -/
def countsInSpan (span : Span) (blocks : List Block) (number : Nat) : Set Nat :=
  {hits | ∃ block ∈ blocks, ¬ block.endsBefore span.start ∧ ¬ block.startsAfter span.finish ∧
    block.start.line ≤ number ∧ number ≤ block.finish.line ∧ block.hits = hits}

/-- The counts that a line has from methods. -/
def countsOfMethods (methods : List Report.Method) (number : Nat) : Set Nat :=
  {hits | ∃ method ∈ methods, method.lines.get? number = some hits}

/-- The lines of several blocks are those that a block covers, with the smallest count. -/
theorem least_linesOfBlocks (blocks : List Block) :
    (linesOfBlocks blocks).Least (countsOfBlocks blocks) :=
  (Lines.least_foldl (fun block _ => Lines.Least.run _ _ block.hits) Lines.Least.empty).congr
    fun _ => Set.empty_union _

/-- The lines of all blocks that overlap a span. -/
theorem least_linesOfBlocks_overlapping (span : Span) (blocks : List Block) :
    (linesOfBlocks (blocks.filter (·.overlaps span))).Least (countsInSpan span blocks) :=
  (least_linesOfBlocks _).congr fun number => by
    ext hits
    simp [countsOfBlocks, countsInSpan, Span.overlaps, and_assoc]

/-- The lines of several methods together. -/
theorem least_linesOfMethods (methods : List Report.Method) :
    (Report.Class.linesOfMethods methods).Least (countsOfMethods methods) :=
  (Lines.least_foldl (fun method _ => Lines.Least.self method.lines) Lines.Least.empty).congr
    fun _ => Set.empty_union _

end GoCoverage
