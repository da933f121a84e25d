import GoCoverage.Go.SourceFile
import GoCoverage.Proofs.Text.Position

/-! # Declarations in the order of the source

The declarations of a file are placed one after the other: the position of a declaration is reached
from the end of the one before it by the text in between, and no text leads backwards
(`Position.le_after`).  So a declaration begins at or after the end of every declaration before it,
whatever the outlines are that were read (`place_ordered`). -/

namespace GoCoverage

namespace Go

open Scanner
open Text (Position)

variable {position : Position} {text : List Char} {outlines : List Outline}

/-- What is placed begins at the given position or after it, and ends where it begins or later. -/
theorem le_of_mem_place {declaration : Declaration}
    (h : declaration ∈ place position text outlines) :
    position ≤ declaration.start ∧ declaration.start ≤ declaration.finish := by
  induction outlines generalizing position text with
  | nil => cases h
  | cons outline outlines ih =>
    have first := position.le_after (text.take (countBefore outline.extent.start text))
    have last := Position.le_after
      (position.after (text.take (countBefore outline.extent.start text))) outline.extent.text
    rcases List.mem_cons.mp h with rfl | h
    · exact ⟨first, last⟩
    · obtain ⟨after, ordered⟩ := ih h
      exact ⟨Position.le_trans first (Position.le_trans last after), ordered⟩

/-- **A declaration begins where those before it have ended.** -/
theorem place_ordered :
    (place position text outlines).Pairwise fun earlier later =>
      earlier.finish ≤ later.start := by
  induction outlines generalizing position text with
  | nil => exact .nil
  | cons outline outlines ih =>
    exact .cons (fun later member => (le_of_mem_place member).1) ih

/-- The declarations of a source text are ordered by where they begin. -/
theorem declarations_ordered {source : String} {declarations : List Declaration}
    (h : declarations? source = some declarations) :
    (declarations.map (·.toSpan)).Pairwise (·.start ≤ ·.start) := by
  obtain ⟨outlines, _, rfl⟩ := Option.map_eq_some_iff.mp h
  rw [List.pairwise_map]
  have apart : (place .start source.toList outlines).Pairwise fun earlier later =>
      earlier.finish ≤ later.start := place_ordered
  refine apart.imp_of_mem ?_
  intro earlier later member _ le
  exact Position.le_trans (le_of_mem_place member).2 le

end Go

end GoCoverage
