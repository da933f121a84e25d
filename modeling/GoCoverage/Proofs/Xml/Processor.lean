import GoCoverage.Proofs.Json.Reader
import GoCoverage.Proofs.Xml.Reader
import GoCoverage.Text.CodeRange
import GoCoverage.Text.DecimalDigit

/-! # XML processors

A processor accepts no document that holds a character which XML leaves out.  Before it looks for
tags, it makes one line break of each way to end a line; and in the value of an attribute it takes
every blank for a space, unless the blank is written as a reference to a character.  What is left is
read by the plain reader of tags. -/

namespace GoCoverage.Xml

/-! ## Characters -/

/-- The characters that a document may hold. -/
def allowedCodes : Text.CodeRanges :=
  [(0x9, 0xA), (0xD, 0xD), (0x20, 0xD7FF), (0xE000, 0xFFFD), (0x10000, 0x10FFFF)]

/-- A document may hold the character. -/
def isAllowed (c : Char) : Bool := allowedCodes.contains c.toNat

/-- A document may hold the characters of a text. -/
def AllAllowed (text : List Char) : Prop := ∀ c ∈ text, isAllowed c = true

instance (text : List Char) : Decidable (AllAllowed text) := List.decidableBAll _ text

/-- The number that one or more digits stand for. -/
def numeral? (base : Nat) (digit? : Char → Option Nat) : List Char → Option Nat
  | [] => none
  | digits => digits.foldlM (fun value c => (digit? c).map (base * value + ·)) 0

/-- The number in a reference, which is to the base sixteen behind an `x`. -/
def referenceNumber? : List Char → Option Nat
  | 'x' :: digits => numeral? 16 Json.hexValue? digits
  | digits => numeral? 10 Text.digitValue? digits

/-- The character that a reference at the beginning of a text stands for, if a document may hold
it.  A semicolon ends the reference. -/
def referent? (text : List Char) : Option Char :=
  if text.contains ';' then
    (referenceNumber? (text.takeWhile (· ≠ ';'))).bind fun number =>
      let c := Char.ofNat number
      if c.toNat = number ∧ isAllowed c then some c else none
  else none

/-! ## Three passes -/

/-- Every way to end a line is read as one line break. -/
def lineEnds : List Char → List Char
  | [] => []
  | '\r' :: '\n' :: text => '\n' :: lineEnds text
  | '\r' :: text => '\n' :: lineEnds text
  | c :: text => c :: lineEnds text

/-- Where in a document a character stands. -/
inductive Zone where
  | content
  | tag
  /-- Between the quotes of a value. -/
  | value
deriving DecidableEq, Repr

/-- Where the character after another one stands. -/
def Zone.after : Zone → Char → Zone
  | content, c => if c = '<' then tag else content
  | tag, c => if c = '>' then content else if c = '"' then value else tag
  | value, c => if c = '"' then tag else value

/-- A blank is read as a space. -/
def asSpace (c : Char) : Char := if isBlank c then ' ' else c

/-- Every blank in a value is read as a space. -/
def spaceValues : Zone → List Char → List Char
  | _, [] => []
  | zone, c :: text =>
    (if zone = .value then asSpace c else c) :: spaceValues (zone.after c) text

/-- References to characters are replaced by the characters as they are written. -/
def resolve : List Char → List Char
  | [] => []
  | '&' :: '#' :: text =>
    match referent? text with
    | some c => escapeChar c ++ resolve (text.dropWhile (· ≠ ';')).tail
    | none => '&' :: '#' :: resolve text
  | c :: text => c :: resolve text
termination_by text => text.length
decreasing_by
  · have shorter := (List.tail_suffix (text.dropWhile (· ≠ ';'))).length_le
    have shorter' := (List.dropWhile_suffix (l := text) (· ≠ ';')).length_le
    simp only [List.length_cons]
    omega
  · simp only [List.length_cons]
    omega
  · simp only [List.length_cons]
    omega

/-- A document as a plain reader is given it. -/
def prepare (zone : Zone) (document : List Char) : List Char :=
  resolve (spaceValues zone (lineEnds document))

/-- A blank that is written as it stands is read as a space, and one behind a reference is kept. -/
example : prepare .content "<a b=\"\t&#9;&#x3C;\r\n\"/>".toList =
    "<a b=\" \t&lt; \"/>".toList := by decide +kernel

/-- The element that a processor finds in a document. -/
def process? (document : String) : Option Element :=
  if AllAllowed document.toList then read? (String.ofList (prepare .content document.toList))
  else none

end GoCoverage.Xml
