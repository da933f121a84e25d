/-! # Lines of a text

Lines are what line breaks end.  What stands after the last line break is a line too unless it is
empty, so a text without characters has no lines. -/

namespace GoCoverage.Text

/-- The lines of a text, without the breaks that end them.  A text may be made of characters or of
bytes. -/
def linesOf {α : Type} [BEq α] (lineBreak : α) (text : List α) : List (List α) :=
  let pieces := text.splitOn lineBreak
  match pieces.getLast? with
  | some [] => pieces.dropLast
  | _ => pieces

end GoCoverage.Text
