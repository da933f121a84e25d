import GoCoverage.Lines
import GoCoverage.Profile.Block

/-! # Lines of declarations

Every block that overlaps the span of a declaration gives its lines to the declaration's table.
`rescanBlocks` says just that: it looks at all blocks for every span.  `scanBlocks` scans the blocks
once where both are sorted by position: a block that has ended before a span begins has ended before
all later spans too and is left behind for good, and the scan for a span stops at the first block
that begins after it. -/

namespace GoCoverage

open Text (Span)
open Profile (Block)

namespace Profile.Block

/-- The lines of a block, all executed as often as the block. -/
def lines (block : Block) : Lines := .run block.start.line block.finish.line block.hits

end Profile.Block

/-- The lines of several blocks; a line of more than one keeps the smallest count. -/
def linesOfBlocks (blocks : List Block) : Lines :=
  blocks.foldl (fun lines block => lines.merge block.lines) .empty

/-- The lines of a span, from the blocks up to the first one that begins after it. -/
def linesOfSpan (span : Span) (blocks : List Block) : Lines :=
  linesOfBlocks <|
    (blocks.takeWhile fun block => !block.startsAfter span.finish).filter fun block =>
      !block.endsBefore span.start

/-- The lines of each span, in one pass over the blocks.  Blocks that a span leaves behind are not
seen by the spans after it. -/
def scanBlocks : List Span → List Block → List Lines
  | [], _ => []
  | span :: spans, blocks =>
    let ahead := blocks.dropWhile (·.endsBefore span.start)
    linesOfSpan span ahead :: scanBlocks spans ahead

/-- The lines of each span, from all blocks that overlap it. -/
def rescanBlocks (spans : List Span) (blocks : List Block) : List Lines :=
  spans.map fun span => linesOfBlocks (blocks.filter (·.overlaps span))

end GoCoverage
