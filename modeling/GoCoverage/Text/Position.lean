/-! # Positions and spans in a text

A position is a line and a column, both counted from one, the column in bytes of UTF-8.  The
position of a place is computed from the text before it, so it is right by its definition: the line
is one more than the line breaks before the place, and the column one more than the bytes since the
last of them.

Positions are ordered as the places of a text are, by line and then by column.  A span runs from one
position up to another, which is not part of it; so two spans that meet in a position have nothing
in common. -/

namespace GoCoverage.Text

/-- A line and a column, both counted from one; columns count bytes. -/
structure Position where
  line : Nat
  column : Nat
deriving DecidableEq, Repr

namespace Position

/-- The beginning of a text. -/
def start : Position where
  line := 1
  column := 1

/-- The position after one more character. -/
def next (position : Position) (c : Char) : Position :=
  if c = '\n' then
    { line := position.line + 1, column := 1 }
  else
    { line := position.line, column := position.column + c.utf8Size }

/-- The position after a text that stands at the given position. -/
def after (position : Position) (text : List Char) : Position := text.foldl next position

/-- The order of places in a text: by line, and within a line by column. -/
instance : LE Position where
  le p q := p.line < q.line ∨ (p.line = q.line ∧ p.column ≤ q.column)

theorem le_def {p q : Position} :
    p ≤ q ↔ p.line < q.line ∨ (p.line = q.line ∧ p.column ≤ q.column) := Iff.rfl

instance (p q : Position) : Decidable (p ≤ q) := decidable_of_iff _ le_def.symm

theorem le_refl (p : Position) : p ≤ p := Or.inr ⟨rfl, Nat.le_refl _⟩

theorem le_trans {p q r : Position} (hpq : p ≤ q) (hqr : q ≤ r) : p ≤ r := by
  rw [le_def] at *; omega

/-- A position before another one, and not the same. -/
instance : LT Position where
  lt p q := p.line < q.line ∨ (p.line = q.line ∧ p.column < q.column)

theorem lt_def {p q : Position} :
    p < q ↔ p.line < q.line ∨ (p.line = q.line ∧ p.column < q.column) := Iff.rfl

instance (p q : Position) : Decidable (p < q) := decidable_of_iff _ lt_def.symm

theorem lt_of_lt_of_le {p q r : Position} (hpq : p < q) (hqr : q ≤ r) : p < r := by
  rw [lt_def] at *; rw [le_def] at hqr; omega

theorem after_append (position : Position) (first second : List Char) :
    position.after (first ++ second) = (position.after first).after second := by
  simp [after, List.foldl_append]

end Position

/-- What lies from one position up to another. -/
structure Span where
  start : Position
  /-- The position just past the end. -/
  finish : Position
deriving DecidableEq, Repr

namespace Span

/-- The span has ended where a position begins. -/
def endsBefore (span : Span) (position : Position) : Bool := span.finish ≤ position

/-- The span begins at a position or after it. -/
def startsAfter (span : Span) (position : Position) : Bool := position ≤ span.start

/-- Neither of the spans is over where the other begins. -/
def overlaps (span other : Span) : Bool :=
  !span.endsBefore other.start && !span.startsAfter other.finish

end Span

end GoCoverage.Text
