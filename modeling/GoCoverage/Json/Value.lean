import GoCoverage.Json.Quoted

/-! # Values and their layout

A value is written over several lines: each item of a list and each field of a record stands on a
line of its own, indented by its depth.  A list or record without content is written as its two
brackets.  A number is kept as the token it is written as. -/

namespace GoCoverage.Json

/-- A value. -/
inductive Value where
  | null
  | number (token : String)
  | text (content : String)
  | list (items : List Value)
  | record (fields : List (String × Value))
deriving Repr

namespace Value

/-- A whole number. -/
def nat (n : Nat) : Value := number (toString n)

/-- A whole number with a sign if it is negative. -/
def int (n : Int) : Value := number (toString n)

/-- The blanks at the beginning of a line. -/
def indent (depth : Nat) : List Char := List.replicate (2 * depth) ' '

mutual

/-- A value as it is written at a depth. -/
def write (depth : Nat) : Value → List Char
  | null => "null".toList
  | number token => token.toList
  | text content => quote content.toList
  | list [] => ['[', ']']
  | list (item :: items) =>
    '[' :: '\n' :: writeItems (depth + 1) (item :: items) ++ indent depth ++ [']']
  | record [] => ['{', '}']
  | record (field :: fields) =>
    '{' :: '\n' :: writeFields (depth + 1) (field :: fields) ++ indent depth ++ ['}']

/-- Items on lines of their own, with a comma after each but the last. -/
def writeItems (depth : Nat) : List Value → List Char
  | [] => []
  | [item] => indent depth ++ item.write depth ++ ['\n']
  | item :: items => indent depth ++ item.write depth ++ ',' :: '\n' :: writeItems depth items

/-- Fields on lines of their own, with a comma after each but the last. -/
def writeFields (depth : Nat) : List (String × Value) → List Char
  | [] => []
  | [(name, value)] =>
    indent depth ++ quote name.toList ++ ':' :: ' ' :: value.write depth ++ ['\n']
  | (name, value) :: fields =>
    indent depth ++ quote name.toList ++ ':' :: ' ' :: value.write depth ++
      ',' :: '\n' :: writeFields depth fields

end

end Value

end GoCoverage.Json
