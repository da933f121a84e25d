import GoCoverage.Profile.Mode
import GoCoverage.Text.Position

/-! # Blocks and profiles

A block is a span of a source file that is executed as a whole.  A profile collects the blocks of
one file in the order in which they were recorded; nothing is merged, so a block recorded twice is
in it twice. -/

namespace GoCoverage

namespace Profile

/-- A span of a source file with the number of statements in it and how often it was executed. -/
structure Block extends Text.Span where
  statements : Nat
  hits : Nat
deriving DecidableEq, Repr

end Profile

/-- All blocks recorded for one source file. -/
structure Profile where
  file : String
  mode : Profile.Mode
  blocks : List Profile.Block
deriving DecidableEq, Repr

namespace Profile

/-- Recorded blocks grouped by file: one profile for each file, in the order in which the files
occur first, and in each the blocks of that file in the order of the record. -/
def group (mode : Mode) (entries : List (String × Block)) : List Profile :=
  (entries.map (·.1)).eraseDups.map fun file =>
    { file, mode, blocks := (entries.filter (·.1 == file)).map (·.2) }

end Profile

end GoCoverage
