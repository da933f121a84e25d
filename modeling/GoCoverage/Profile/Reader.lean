import GoCoverage.Profile.Block
import GoCoverage.Profile.Fault
import GoCoverage.Text.Blank
import GoCoverage.Text.DecimalDigit
import GoCoverage.Text.Split
import GoCoverage.Text.Utf8

/-! # Reading profiles

A profile is read line by line, and every line is trimmed first.  Blank lines are skipped; a line
that begins with `mode:` declares the counting mode, once and before any block; every other line is
a block,

    file:line.column,line.column statements executions

where the file is all that stands before the last colon.  The first line that is not as it should be
ends the reading, so what follows it does not matter. -/

namespace GoCoverage.Profile

open Text

/-! ## Numbers -/

/-- The largest line, column and number of statements. -/
def largestPosition : Nat := 0xFFFFFFFF

/-- The largest number of executions. -/
def largestCount : Nat := 0xFFFFFFFFFFFFFFFF

/-- The number that a text of ASCII digits stands for. -/
def natural? (text : List Char) : Option Nat :=
  text.foldlM (fun value c => (digitValue? c).map (10 * value + ·)) 0

/-- A number that fits in sixty-four bits. -/
def number (quantity : Quantity) (text : List Char) : Except Cause Nat :=
  match natural? text with
  | some value =>
    if value ≤ largestCount then .ok value
    else .error (.outOfRange quantity (String.ofList text))
  | none => .error (.outOfRange quantity (String.ofList text))

/-- A line or a column: a positive number that fits in thirty-two bits. -/
def position (quantity : Quantity) (text : List Char) : Except Cause Nat := do
  let value ← number quantity text
  if value = 0 then .error (.notPositive quantity)
  else if value ≤ largestPosition then .ok value
  else .error (.outOfRange quantity (toString value))

/-! ## Block lines -/

/-- The texts of the six numbers of a block line, and the file before them. -/
structure BlockText where
  file : List Char
  startLine : List Char
  startColumn : List Char
  endLine : List Char
  endColumn : List Char
  statements : List Char
  executions : List Char
deriving DecidableEq, Repr

/-- One or more digits and a mark after them; answers the digits and what follows the mark. -/
def digitsUpTo? (mark : Char) (text : List Char) : Option (List Char × List Char) :=
  let digits := text.takeWhile isDecimalDigit
  match digits, text.drop digits.length with
  | [], _ => none
  | _, [] => none
  | _, c :: rest => if c = mark then some (digits, rest) else none

/-- One or more digits and nothing else. -/
def allDigits (text : List Char) : Bool := !text.isEmpty && text.all isDecimalDigit

/-- The text before the last mark and the text after it. -/
def splitLast? (mark : Char) (text : List Char) : Option (List Char × List Char) :=
  let last := text.reverse.takeWhile (· ≠ mark)
  match text.reverse.drop last.length with
  | [] => none
  | _ :: before => some (before.reverse, last.reverse)

/-- The parts of a line that has the form of a block. -/
def BlockText.ofLine? (line : List Char) : Option BlockText := do
  let (file, range) ← splitLast? ':' line
  guard !file.isEmpty
  let (startLine, rest) ← digitsUpTo? '.' range
  let (startColumn, rest) ← digitsUpTo? ',' rest
  let (endLine, rest) ← digitsUpTo? '.' rest
  let (endColumn, rest) ← digitsUpTo? ' ' rest
  let (statements, executions) ← digitsUpTo? ' ' rest
  guard (allDigits executions)
  return { file, startLine, startColumn, endLine, endColumn, statements, executions }

/-- The block that the parts of a line stand for.  The numbers are judged in the order in which they
stand in the line. -/
def BlockText.block (text : BlockText) : Except Cause Block := do
  let startLine ← position .startLine text.startLine
  let startColumn ← position .startColumn text.startColumn
  let endLine ← position .endLine text.endLine
  let endColumn ← position .endColumn text.endColumn
  let statements ← number .statements text.statements
  if largestPosition < statements then
    .error .tooManyStatements
  else
    let hits ← number .executions text.executions
    return {
      start := { line := startLine, column := startColumn }
      finish := { line := endLine, column := endColumn }
      statements, hits }

/-- The file and the block of a line. -/
def blockOfLine (line : List Char) : Except Cause (String × Block) :=
  match BlockText.ofLine? line with
  | none => .error (.notABlock (String.ofList line))
  | some text => text.block.map (String.ofList text.file, ·)

/-! ## Lines -/

/-- The text that a line declaring the counting mode begins with. -/
def modeMark : List Char := "mode:".toList

/-- What a trimmed line is. -/
inductive Item where
  | blank
  /-- A declaration of the counting mode, with the word for it. -/
  | mode (word : String)
  | block (line : List Char)
deriving DecidableEq, Repr

/-- What a line is, judged by how it begins. -/
def Item.ofLine (line : List Char) : Item :=
  match trim line with
  | [] => blank
  | text =>
    if modeMark.isPrefixOf text then
      mode (String.ofList (trim (text.drop modeMark.length)))
    else
      block text

/-- What has been read so far. -/
structure Reading where
  mode : Option Mode
  /-- The blocks with their files, the last one first. -/
  entries : List (String × Block)
deriving DecidableEq, Repr

namespace Reading

/-- Nothing has been read. -/
def start : Reading where
  mode := none
  entries := []

/-- Reads an item of a profile. -/
def item (reading : Reading) : Item → Except Cause Reading
  | .blank => .ok reading
  | .mode word =>
    match Mode.ofName? word, reading.mode with
    | none, _ => .error (.unknownMode word)
    | some _, some _ => .error .repeatedMode
    | some mode, none => .ok { reading with mode := some mode }
  | .block line =>
    match reading.mode with
    | none => .error .missingMode
    | some _ =>
      (blockOfLine line).map fun entry => { reading with entries := entry :: reading.entries }

/-- Reads the line with the given number.  A line that is no text cannot be read. -/
def line (reading : Reading) (numbered : Option (List Char) × Nat) : Except Fault Reading :=
  match numbered.1 with
  | none => .error .undecodable
  | some text => (reading.item (.ofLine text)).mapError (.malformed numbered.2)

/-- The profiles that have been read, when all lines are. -/
def finish (reading : Reading) (lineCount : Nat) : Except Fault (List Profile) :=
  match reading.mode with
  | none => .error (.malformed (max lineCount 1) .missingMode)
  | some mode => .ok (group mode reading.entries.reverse)

end Reading

/-- Reads the lines of a profile, each of which may fail to be a text. -/
def ofLines (lines : List (Option (List Char))) : Except Fault (List Profile) := do
  let reading ← (lines.zipIdx 1).foldlM Reading.line Reading.start
  reading.finish lines.length

/-- The profiles in a text. -/
def parse (text : String) : Except Fault (List Profile) :=
  ofLines ((linesOf '\n' text.toList).map some)

/-- The profiles in a sequence of bytes.  A line is decoded when it is its turn. -/
def parseBytes (bytes : List UInt8) : Except Fault (List Profile) :=
  ofLines ((linesOf 10 bytes).map fun line => (decode? line).map String.toList)

end GoCoverage.Profile
