import GoCoverage.Pattern.Encoding
import GoCoverage.Pattern.Form

/-! # How large a pattern is

A pattern is carried out by two automata that read the bytes of a text, one from the front and one
from the back.  A pattern is as large as the larger of the two.  What counts is the room that the
states of an automaton take: each takes the same, and where a state leads on in several ways each of
them takes some more. -/

namespace GoCoverage.Pattern

open Text (CodeRanges)

/-- The way in which a text is read. -/
inductive Direction where
  | forwards
  | backwards
deriving DecidableEq, Repr

namespace Size

/-- A state. -/
def state : Nat := 32

/-- A way on that takes a byte. -/
def arrow : Nat := 8

/-- A way on that takes nothing, where there are several. -/
def branch : Nat := 4

/-- A state with two ways on that take nothing. -/
def fork : Nat := state + 2 * branch

/-- The sum of sizes. -/
def sum (sizes : List Nat) : Nat := sizes.foldl (· + ·) 0

/-- The size of an ordered table.  One that holds ASCII only takes a single state and its end.  Read
from the front, nodes from which the same can be read on are one.  Read from the back, nodes are
kept apart, and each way on leads to a state of its own. -/
def ofTable (direction : Direction) (table : CodeRanges) : Nat :=
  if table.isAscii then 2 * state + table.length * arrow
  else
    let spellings := Spelling.ofTable table
    let nodes := Spelling.nodes 4 [spellings]
    let ways (node : List Spelling) : Nat := (Spelling.next node).length
    match direction with
    | .forwards => state + sum (nodes.eraseDups.map fun node => state + ways node * arrow)
    | .backwards => 2 * state + spellings.length * branch + sum (nodes.map (ways · * state))

/-- The words that come before and between empty ones and after them. -/
def betweenEmpty : List (List UInt8) → List (List (List UInt8))
  | [] => [[]]
  | word :: words =>
    match word, betweenEmpty words with
    | [], chunks => [] :: chunks
    | _, chunk :: chunks => (word :: chunk) :: chunks
    | _, [] => [[word]]

/-- The size of a tree of words, without its end, down to a depth.  Where a word ends the others go
on in a state of their own. -/
def ofTree : Nat → List (List UInt8) → Nat
  | 0, _ => 0
  | depth + 1, words =>
    if words.all (·.isEmpty) then 0
    else
      let chunks := betweenEmpty words
      let inner := chunks.filter (!·.isEmpty)
      state + (inner.length + (chunks.length - 1)) * branch +
        sum (inner.map fun chunk =>
          let bytes := (chunk.filterMap List.head?).eraseDups
          state + (if bytes.length = 1 then 0 else bytes.length * arrow) +
            sum (bytes.map fun byte =>
              ofTree depth ((chunk.filter (·.head? == some byte)).map List.tail)))

/-- The size of a choice between words. -/
def ofWords (direction : Direction) (words : List (List Char)) : Nat :=
  let encoded := words.map fun word =>
    let bytes := word.flatMap String.utf8EncodeChar
    match direction with
    | .forwards => bytes
    | .backwards => bytes.reverse
  state + ofTree (encoded.foldl (fun longest bytes => max longest bytes.length) 0) encoded

end Size

namespace Form

open Size

/-- The characters, of a form that is a word. -/
def word? : Form → Option (List Char)
  | word characters => some characters
  | _ => none

/-- The size of so many forms in a row, each of the given size. -/
def sizeOfTimes (body : Nat) (isSolid : Bool) (least : Nat) : Option Nat → Nat
  | none =>
    if least = 0 then if isSolid then body + fork else body + 2 * fork + state
    else least * body + fork
  | some most =>
    if least = most then least * body
    else if most = 1 then fork + body + state
    else (if least = 0 then state else least * body) + state + (most - least) * (fork + body)

mutual

/-- The size of a form.  Groups leave a trace at both of their ends when a text is read from the
front. -/
def size (direction : Direction) : Form → Nat
  | nothing | place _ => state
  | word characters => sum (characters.map fun c => c.utf8Size * state)
  | set table => Size.ofTable direction table
  | group body =>
    body.size direction + match direction with
      | .forwards => 2 * state
      | .backwards => 0
  | repeated body least most =>
    sizeOfTimes (body.size direction) (body.lengths.least ≠ 0) least most
  | sequence parts => sum (sizes direction parts)
  | choice branches =>
    match branches.mapM word? with
    | some words => ofWords direction words
    | none => 2 * state + branches.length * branch + sum (sizes direction branches)

/-- The sizes of forms. -/
def sizes (direction : Direction) : List Form → List Nat
  | [] => []
  | form :: forms => form.size direction :: sizes direction forms

end

end Form

/-- The size of a pattern.  A match may begin anywhere: before it any bytes are skipped.  The whole
match is a group of its own. -/
def size (pattern : Pattern) : Nat :=
  let form := Form.oneOf pattern.forms
  let skipping := Size.fork + 2 * Size.state + Size.arrow
  skipping + max (3 * Size.state + form.size .forwards) (Size.state + form.size .backwards)

end GoCoverage.Pattern
