/-! # Quoted text

A text is written between quotes.  A quote and a backslash inside it follow a backslash, and control
characters below the blank are written as escapes, the common ones by a letter and the others by
their number.  Every other character stands for itself. -/

namespace GoCoverage.Json

/-- The letters of the escapes that have one. -/
def escapeLetters : List (Char × Char) :=
  [('"', '"'), ('\\', '\\'), ('\x08', 'b'), ('\x0c', 'f'), ('\n', 'n'), ('\r', 'r'), ('\t', 't')]

/-- A digit to the base sixteen. -/
def hexDigit (n : Nat) : Char := Nat.digitChar (n % 16)

/-- A character as it is written. -/
def quoteChar (c : Char) : List Char :=
  match escapeLetters.lookup c with
  | some letter => ['\\', letter]
  | none =>
    if c.toNat < 0x20 then
      ['\\', 'u', '0', '0', hexDigit (c.toNat / 16), hexDigit c.toNat]
    else [c]

/-- A text as it is written. -/
def quote (text : List Char) : List Char := '"' :: text.flatMap quoteChar ++ ['"']

end GoCoverage.Json
