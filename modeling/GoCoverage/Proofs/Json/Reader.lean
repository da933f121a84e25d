import GoCoverage.Json.Value

/-! # Reading JSON texts

A reader for all of JSON: literals, numbers in the grammar of the format, quoted texts with every
kind of escape, lists and records, with blanks allowed between them.  A number is kept as its token,
and a record as its fields in their order. -/

namespace GoCoverage.Json

/-! ## The reader -/

/-- What a JSON text stands for. -/
inductive Datum where
  | null
  | boolean (value : Bool)
  | number (token : String)
  | text (content : String)
  | list (items : List Datum)
  | record (fields : List (String × Datum))

/-- The characters that may stand between the parts of a text. -/
def isBlank (c : Char) : Bool := c == ' ' || c == '\n' || c == '\r' || c == '\t'

/-- A text behind the blanks it begins with. -/
def skipBlank (text : List Char) : List Char := text.dropWhile isBlank

/-! ### Numbers -/

/-- At least one digit, and the text behind the digits. -/
def digits? (text : List Char) : Option (List Char × List Char) :=
  match text.span Char.isDigit with
  | ([], _) => none
  | (digits, rest) => some (digits, rest)

/-- The whole part of a number: a zero, or digits that begin with another one. -/
def whole? : List Char → Option (List Char × List Char)
  | '0' :: text => some (['0'], text)
  | text => digits? text

/-- The fraction of a number, if there is one. -/
def fraction? : List Char → Option (List Char × List Char)
  | '.' :: text => (digits? text).map fun (digits, rest) => ('.' :: digits, rest)
  | text => some ([], text)

/-- The exponent of a number, if there is one. -/
def exponent? : List Char → Option (List Char × List Char)
  | [] => some ([], [])
  | c :: text =>
    if c = 'e' ∨ c = 'E' then
      match text with
      | '+' :: text => (digits? text).map fun (digits, rest) => (c :: '+' :: digits, rest)
      | '-' :: text => (digits? text).map fun (digits, rest) => (c :: '-' :: digits, rest)
      | text => (digits? text).map fun (digits, rest) => (c :: digits, rest)
    else some ([], c :: text)

/-- A number without its sign. -/
def unsigned? (text : List Char) : Option (List Char × List Char) := do
  let (whole, text) ← whole? text
  let (fraction, text) ← fraction? text
  let (exponent, text) ← exponent? text
  return (whole ++ fraction ++ exponent, text)

/-- A number, and the text behind it. -/
def number? : List Char → Option (List Char × List Char)
  | '-' :: text => (unsigned? text).map fun (token, rest) => ('-' :: token, rest)
  | text => unsigned? text

/-! ### Quoted texts -/

/-- The character that a letter behind a backslash stands for. -/
def escaped? : Char → Option Char
  | '"' => some '"'
  | '\\' => some '\\'
  | '/' => some '/'
  | 'b' => some '\x08'
  | 'f' => some '\x0c'
  | 'n' => some '\n'
  | 'r' => some '\r'
  | 't' => some '\t'
  | _ => none

/-- The value of a digit to the base sixteen. -/
def hexValue? (c : Char) : Option Nat :=
  if c.isDigit then some (c.toNat - '0'.toNat)
  else if 'a' ≤ c ∧ c ≤ 'f' then some (c.toNat - 'a'.toNat + 10)
  else if 'A' ≤ c ∧ c ≤ 'F' then some (c.toNat - 'A'.toNat + 10)
  else none

/-- The number that four digits to the base sixteen stand for. -/
def unit? (a b c d : Char) : Option Nat := do
  return ((← hexValue? a) * 16 + (← hexValue? b)) * 256 + (← hexValue? c) * 16 + (← hexValue? d)

/-- A pair of numbers that stands for one character together. -/
def paired? (high low : Nat) : Option Char :=
  if 0xD800 ≤ high ∧ high < 0xDC00 ∧ 0xDC00 ≤ low ∧ low < 0xE000 then
    some (Char.ofNat (0x10000 + (high - 0xD800) * 0x400 + (low - 0xDC00)))
  else none

/-- The characters up to the closing quote, and the text behind it. -/
def characters? : List Char → Option (List Char × List Char)
  | [] => none
  | '"' :: text => some ([], text)
  | '\\' :: 'u' :: a :: b :: c :: d :: text =>
    match unit? a b c d with
    | none => none
    | some unit =>
      -- A number that is half of a pair stands for no character of its own.
      if unit < 0xD800 ∨ 0xE000 ≤ unit then
        (characters? text).map fun (content, rest) => (Char.ofNat unit :: content, rest)
      else
        match text with
        | '\\' :: 'u' :: e :: f :: g :: h :: text =>
          match (unit? e f g h).bind (paired? unit) with
          | none => none
          | some pair => (characters? text).map fun (content, rest) => (pair :: content, rest)
        | _ => none
  | '\\' :: letter :: text =>
    match escaped? letter with
    | none => none
    | some c => (characters? text).map fun (content, rest) => (c :: content, rest)
  | c :: text =>
    if c = '\\' ∨ c.toNat < 0x20 then none
    else (characters? text).map fun (content, rest) => (c :: content, rest)

/-! ### Values -/

section

variable {α : Type} (close : Char) (part? : List Char → Option (α × List Char))

/-- Parts with commas between them and a bracket behind them, and the text behind the bracket. -/
def separated? : Nat → List Char → Option (List α × List Char)
  | 0, _ => none
  | fuel + 1, text =>
    match part? text with
    | none => none
    | some (part, text) =>
      match skipBlank text with
      | [] => none
      | c :: text =>
        if c = ',' then (separated? fuel text).map fun (parts, rest) => (part :: parts, rest)
        else if c = close then some ([part], text)
        else none

/-- Parts as before, or the bracket alone. -/
def bracketed? (text : List Char) : Option (List α × List Char) :=
  match skipBlank text with
  | [] => none
  | c :: rest => if c = close then some ([], rest) else separated? close part? text.length text

end

/-- A field: a name in quotes, a colon, and a value. -/
def field? (value? : List Char → Option (Datum × List Char)) (text : List Char) :
    Option ((String × Datum) × List Char) :=
  match skipBlank text with
  | '"' :: text =>
    match characters? text with
    | none => none
    | some (name, text) =>
      match skipBlank text with
      | ':' :: text =>
        (value? text).map fun (value, rest) => ((String.ofList name, value), rest)
      | _ => none
  | _ => none

/-- A value, and the text behind it.  The values in a value are read with less fuel, so any fuel
that is not less than the length of the text is enough. -/
def value? : Nat → List Char → Option (Datum × List Char)
  | 0, _ => none
  | fuel + 1, text =>
    match skipBlank text with
    | 'n' :: 'u' :: 'l' :: 'l' :: text => some (.null, text)
    | 't' :: 'r' :: 'u' :: 'e' :: text => some (.boolean true, text)
    | 'f' :: 'a' :: 'l' :: 's' :: 'e' :: text => some (.boolean false, text)
    | '"' :: text =>
      (characters? text).map fun (content, rest) => (.text (String.ofList content), rest)
    | '[' :: text =>
      (bracketed? ']' (value? fuel) text).map fun (items, rest) => (.list items, rest)
    | '{' :: text =>
      (bracketed? '}' (field? (value? fuel)) text).map fun (fields, rest) => (.record fields, rest)
    | text => (number? text).map fun (token, rest) => (.number (String.ofList token), rest)

/-- What a JSON text stands for, or nothing if it is none. -/
def read? (text : String) : Option Datum :=
  match value? text.toList.length text.toList with
  | none => none
  | some (datum, rest) => if (skipBlank rest).isEmpty then some datum else none

/-! ## Blanks -/

/-- A text of blanks. -/
def AllBlank (text : List Char) : Prop := ∀ c ∈ text, isBlank c = true

instance (text : List Char) : Decidable (AllBlank text) := List.decidableBAll _ text

theorem skipBlank_append {blanks : List Char} (blank : AllBlank blanks) (text : List Char) :
    skipBlank (blanks ++ text) = skipBlank text :=
  List.dropWhile_append_of_pos blank

theorem skipBlank_cons {c : Char} (notBlank : isBlank c = false) (text : List Char) :
    skipBlank (c :: text) = c :: text := by
  rw [skipBlank, List.dropWhile_cons_of_neg (by simp [notBlank])]

theorem skipBlank_append_cons {blanks : List Char} {c : Char} (blank : AllBlank blanks)
    (notBlank : isBlank c = false) (text : List Char) :
    skipBlank (blanks ++ c :: text) = c :: text := by
  rw [skipBlank_append blank, skipBlank_cons notBlank]

theorem allBlank_indent (depth : Nat) : AllBlank (Value.indent depth) := by
  intro c member
  rw [List.eq_of_mem_replicate member]
  decide

end GoCoverage.Json
