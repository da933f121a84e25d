import GoCoverage.Text.Blank

/-! # Reading the text of a pattern

The readers of the parts of a pattern take characters from the front of a text and fail where the
text has not the form they read.  What the letters in the head of a group have switched on is given
to them. -/

namespace GoCoverage.Pattern

/-- What can be switched on for a part of a pattern. -/
structure Flags where
  ignoreCase : Bool
  /-- Assertions about the text are about its lines. -/
  multiLine : Bool
  /-- A dot stands for line feeds too. -/
  dotMatchesAll : Bool
  /-- Lines end in carriage returns too. -/
  anyLineEnd : Bool
  /-- Classes and words are those of all characters and not of ASCII. -/
  unicode : Bool
  /-- Blanks and comments may stand anywhere. -/
  spaced : Bool
deriving DecidableEq, Repr

/-- What is switched on where nothing is said. -/
def Flags.default : Flags where
  ignoreCase := false
  multiLine := false
  dotMatchesAll := false
  anyLineEnd := false
  unicode := true
  spaced := false

/-- Takes characters from the front of a text, or fails. -/
abbrev Reading (α : Type) := StateT (List Char) Option α

namespace Reading

/-- What is left of the text. -/
def left : Reading (List Char) := get

/-- The next character, if there is one. -/
def next? : Reading (Option Char) := return (← get).head?

/-- Fails unless something is true. -/
def require (condition : Bool) : Reading Unit := if condition then pure () else failure

/-- The answer, if there is one. -/
def ofOption {α : Type} : Option α → Reading α
  | some a => pure a
  | none => failure

/-- Takes so many characters. -/
def drop (count : Nat) : Reading Unit := modify (List.drop count)

/-- The text without the blanks and comments it begins with.  A comment runs from a number sign to
the end of the line. -/
def afterBlanks (inComment : Bool) : List Char → List Char
  | [] => []
  | c :: text =>
    if inComment then afterBlanks (c ≠ '\n') text
    else if Text.isBlank c then afterBlanks false text
    else if c = '#' then afterBlanks true text
    else c :: text

/-- Takes blanks and comments, where they may stand anywhere. -/
def skipBlanks (flags : Flags) : Reading Unit :=
  if flags.spaced then modify (afterBlanks false) else pure ()

/-- Takes a character, and the blanks and comments after it where they may stand anywhere. -/
def step (flags : Flags) : Reading Unit := do
  drop 1
  skipBlanks flags

/-- Takes a given character. -/
def expect (c : Char) : Reading Unit := do
  require ((← next?) == some c)
  drop 1

/-- Takes characters, each with the blanks after it, up to one that stops. -/
def collect (flags : Flags) (wanted : Char → Bool) : Nat → Reading (List Char)
  | 0 => failure
  | fuel + 1 => do
    match ← next? with
    | some c =>
      if wanted c then
        step flags
        return c :: (← collect flags wanted fuel)
      else return []
    | none => return []

/-- Takes all wanted characters, each with the blanks after it. -/
def collectAll (flags : Flags) (wanted : Char → Bool) : Reading (List Char) := do
  collect flags wanted ((← left).length + 1)

end Reading

end GoCoverage.Pattern
