/-! # Escaped text

Five characters have a meaning of their own in XML.  In text and in attributes they are written as
references to entities; every other character stands for itself. -/

namespace GoCoverage.Xml

/-- The names of the entities that characters with a meaning of their own are written as. -/
def entityOf? : Char → Option (List Char)
  | '<' => some "lt".toList
  | '>' => some "gt".toList
  | '&' => some "amp".toList
  | '\'' => some "apos".toList
  | '"' => some "quot".toList
  | _ => none

/-- A character as it is written. -/
def escapeChar (c : Char) : List Char :=
  match entityOf? c with
  | some name => '&' :: name ++ [';']
  | none => [c]

/-- A text as it is written. -/
def escape (text : List Char) : List Char := text.flatMap escapeChar

end GoCoverage.Xml
