import GoCoverage.Attribution
import Mathlib.Data.List.Forall2

/-! # Executed or not

A rate tells how many lines were executed and not how often.  So two counts come to the same if both
are zero or both are positive.  Line tables whose counts come to the same list as many lines and as
many executed ones (`Lines.SameZeros.covered_eq`), and they still do after both have been joined
with such tables (`Lines.SameZeros.merge`): the smaller of two counts is zero if one of them is, so
nothing else has to be known of it.  The scan looks at the spans of blocks and never at their
counts, and so blocks that differ in their counts alone are scanned alike
(`forall₂_scanBlocks`). -/

namespace GoCoverage

open Text (Span)
open Profile (Block)

/-! ## Lines -/

/-- Two lines have the same number and are both executed, or both not. -/
structure Line.SameZeros (line other : Line) : Prop where
  number : line.number = other.number
  zero : line.hits = 0 ↔ other.hits = 0

namespace Lines

/-- Two tables list the same lines, and the same of them as executed. -/
def SameZeros (lines others : Lines) : Prop :=
  List.Forall₂ Line.SameZeros lines.toList others.toList

theorem min_eq_zero_congr {hits hits' other other' : Nat} (h : hits = 0 ↔ hits' = 0)
    (h' : other = 0 ↔ other' = 0) : min hits other = 0 ↔ min hits' other' = 0 := by
  omega

/-- Joining takes its decisions by the numbers of the lines, so it goes the same way on both
sides. -/
theorem forall₂_mergeLists {lines others : List Line} {lines' others' : List Line}
    (h : List.Forall₂ Line.SameZeros lines lines')
    (h' : List.Forall₂ Line.SameZeros others others') :
    List.Forall₂ Line.SameZeros (mergeLists lines others) (mergeLists lines' others') := by
  fun_induction mergeLists lines others generalizing lines' others' with
  | case1 others =>
    cases h
    rwa [mergeLists]
  | case2 lines _ =>
    cases h'
    cases h with
    | nil => simp [mergeLists]
    | cons first rest => simpa [mergeLists] using ⟨first, rest⟩
  | case3 line lines other others less ih =>
    cases h with
    | @cons _ line' _ lines' first rest =>
      cases h' with
      | @cons _ other' _ others' first' rest' =>
        have less' : line'.number < other'.number := first.number ▸ first'.number ▸ less
        rw [mergeLists, if_pos less']
        exact .cons first (ih rest (.cons first' rest'))
  | case4 line lines other others notLess less ih =>
    cases h with
    | @cons _ line' _ lines' first rest =>
      cases h' with
      | @cons _ other' _ others' first' rest' =>
        have notLess' : ¬ line'.number < other'.number := first.number ▸ first'.number ▸ notLess
        have less' : other'.number < line'.number := first.number ▸ first'.number ▸ less
        rw [mergeLists, if_neg notLess', if_pos less']
        exact .cons first' (ih (.cons first rest) rest')
  | case5 line lines other others notLess notGreater ih =>
    cases h with
    | @cons _ line' _ lines' first rest =>
      cases h' with
      | @cons _ other' _ others' first' rest' =>
        have notLess' : ¬ line'.number < other'.number := first.number ▸ first'.number ▸ notLess
        have notGreater' : ¬ other'.number < line'.number :=
          first.number ▸ first'.number ▸ notGreater
        rw [mergeLists, if_neg notLess', if_neg notGreater']
        exact .cons ⟨first.number, min_eq_zero_congr first.zero first'.zero⟩ (ih rest rest')

namespace SameZeros

variable {lines others lines' others' : Lines}

theorem empty : Lines.empty.SameZeros .empty := .nil

/-- **Joining keeps apart what is executed and what is not.** -/
theorem merge (h : lines.SameZeros lines') (h' : others.SameZeros others') :
    (lines.merge others).SameZeros (lines'.merge others') :=
  forall₂_mergeLists h h'

theorem run (first last : Nat) {hits other : Nat} (h : hits = 0 ↔ other = 0) :
    (Lines.run first last hits).SameZeros (.run first last other) := by
  show List.Forall₂ _ (List.map _ _) (List.map _ _)
  rw [List.forall₂_map_left_iff, List.forall₂_map_right_iff, List.forall₂_same]
  exact fun number _ => ⟨rfl, h⟩

theorem size_eq (h : lines.SameZeros others) : lines.size = others.size := h.length_eq

theorem covered_eq (h : lines.SameZeros others) : lines.covered = others.covered := by
  rw [covered, covered, List.countP_eq_length_filter, List.countP_eq_length_filter]
  refine (List.rel_filter ?_ h).length_eq
  intro line other same
  have := same.zero
  simp only [decide_eq_true_eq]
  omega

end SameZeros

end Lines

/-! ## Blocks -/

/-- Two blocks are of the same span, and both are executed or both not. -/
structure Profile.Block.SameZeros (block other : Block) : Prop where
  span : block.toSpan = other.toSpan
  statements : block.statements = other.statements
  zero : block.hits = 0 ↔ other.hits = 0

/-- What related lists leave of them is related if they leave it by the same conditions. -/
theorem forall₂_dropWhile {α β : Type} {related : α → β → Prop} {p : α → Bool} {q : β → Bool}
    (same : ∀ a b, related a b → p a = q b) {list : List α} {others : List β}
    (h : List.Forall₂ related list others) :
    List.Forall₂ related (list.dropWhile p) (others.dropWhile q) := by
  induction h with
  | nil => exact .nil
  | @cons a b list others first rest ih =>
    rw [List.dropWhile_cons, List.dropWhile_cons, same a b first]
    split
    · exact ih
    · exact .cons first rest

theorem forall₂_takeWhile {α β : Type} {related : α → β → Prop} {p : α → Bool} {q : β → Bool}
    (same : ∀ a b, related a b → p a = q b) {list : List α} {others : List β}
    (h : List.Forall₂ related list others) :
    List.Forall₂ related (list.takeWhile p) (others.takeWhile q) := by
  induction h with
  | nil => exact .nil
  | @cons a b list others first rest ih =>
    rw [List.takeWhile_cons, List.takeWhile_cons, same a b first]
    split
    · exact .cons first ih
    · exact .nil

section Scan

variable {blocks others : List Block}

theorem linesOfBlocks_sameZeros (h : List.Forall₂ Block.SameZeros blocks others) :
    (linesOfBlocks blocks).SameZeros (linesOfBlocks others) := by
  refine List.rel_foldl ?_ Lines.SameZeros.empty h
  intro lines lines' joined block other same
  refine joined.merge ?_
  rw [Profile.Block.lines, Profile.Block.lines, same.span]
  exact .run _ _ same.zero

theorem linesOfSpan_sameZeros (span : Span) (h : List.Forall₂ Block.SameZeros blocks others) :
    (linesOfSpan span blocks).SameZeros (linesOfSpan span others) := by
  refine linesOfBlocks_sameZeros (List.rel_filter ?_ (forall₂_takeWhile ?_ h))
  · intro block other same
    dsimp only
    rw [same.span]
  · intro block other same
    rw [same.span]

/-- **Blocks that differ in their counts alone are scanned alike**, in whatever order they are. -/
theorem forall₂_scanBlocks (spans : List Span) (h : List.Forall₂ Block.SameZeros blocks others) :
    List.Forall₂ Lines.SameZeros (scanBlocks spans blocks) (scanBlocks spans others) := by
  induction spans generalizing blocks others with
  | nil => exact .nil
  | cons span spans ih =>
    have ahead := forall₂_dropWhile (p := (·.endsBefore span.start))
      (q := (·.endsBefore span.start)) (fun block other same => by rw [same.span]) h
    exact .cons (linesOfSpan_sameZeros span ahead) (ih ahead)

end Scan

end GoCoverage
