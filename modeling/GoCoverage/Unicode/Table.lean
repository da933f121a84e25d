import GoCoverage.Text.CodeRange

/-! # Tables in text form

The tables of the Unicode character database are long, so they are written as text: code points and
ranges of code points as hexadecimal numbers, with blanks between them. -/

namespace GoCoverage.Unicode

open Text (CodeRanges)

/-- The value of a hexadecimal digit; capital letters are digits too. -/
def hexDigitValue (c : Char) : Nat :=
  if c.isDigit then c.toNat - '0'.toNat else c.toNat - 'A'.toNat + 10

/-- The number that hexadecimal digits stand for. -/
def hexadecimal (digits : List Char) : Nat :=
  digits.foldl (fun value c => 16 * value + hexDigitValue c) 0

/-- The pieces of a text between marks. -/
def splitText (mark : Char) (text : List Char) : List (List Char) := text.splitOn mark

/-- The ranges that a text stands for. -/
def rangesOfText (text : String) : CodeRanges :=
  (splitText ' ' text.toList).filterMap fun range =>
    match splitText '-' range with
    | [code] => some (hexadecimal code, hexadecimal code)
    | [first, last] => some (hexadecimal first, hexadecimal last)
    | _ => none

/-- The ranges that the lines of a text stand for. -/
def rangesOfTexts (texts : List String) : CodeRanges := texts.flatMap rangesOfText

/-- A property of characters: the names it goes by, in lower case and without separators, and the
characters that have it. -/
structure Property where
  names : List String
  ranges : List String

namespace Property

/-- The characters that have the property. -/
def table (property : Property) : CodeRanges := rangesOfTexts property.ranges

/-- The property with the given name. -/
def named? (properties : List Property) (name : String) : Option Property :=
  properties.find? (·.names.contains name)

end Property

end GoCoverage.Unicode
