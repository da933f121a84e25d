import GoCoverage.Pattern.Assertion
import GoCoverage.Pattern.Property
import GoCoverage.Pattern.Reader.Basic

/-! # Escapes and single characters

A backslash gives the character after it another meaning: signs stand for themselves, and letters
for control characters, characters by number, classes or assertions.  Everything else that stands
for one character stands for itself. -/

namespace GoCoverage.Pattern

open Reading

/-- What a character or an escape means. -/
inductive Primitive where
  /-- A character, perhaps given as a byte by two digits. -/
  | literal (c : Char) (isByte : Bool)
  | set (set : CharSet)
  | place (assertion : Assertion)
deriving DecidableEq, Repr

/-! ## Sets of characters -/

/-- The set with all that differs from it in case only, where case does not matter. -/
def foldIf (flags : Flags) (set : CharSet) : CharSet :=
  if flags.ignoreCase then
    if flags.unicode then .folded set else .foldedAscii set
  else set

/-- The set, or what does not belong to it. -/
def complementIf (negated : Bool) (set : CharSet) : CharSet :=
  if negated then .complement set else set

/-- The set, which must hold nothing but ASCII where classes are those of ASCII: the bytes beyond
are no characters. -/
def checked (flags : Flags) (set : CharSet) : Reading CharSet :=
  if flags.unicode || set.isAscii then pure set else failure

/-- The class for a letter: digits, blanks and word characters. -/
def letterClass (flags : Flags) (letter : Char) : CharSet :=
  match letter.toLower with
  | 'd' =>
    if flags.unicode then (Property.category? "nd").getD .empty else .ranges [(0x30, 0x39)]
  | 's' =>
    if flags.unicode then .ranges Text.blanks else .ofChars ['\t', '\n', '\x0B', '\x0C', '\r', ' ']
  | _ => if flags.unicode then wordSet else asciiWordSet

/-- The two parts of a text around the first place where a mark stands in it. -/
def splitAt? (mark : List Char) : List Char → Option (List Char × List Char)
  | [] => none
  | c :: text =>
    if mark.isPrefixOf (c :: text) then some ([], (c :: text).drop mark.length)
    else (splitAt? mark text).map fun parts => (c :: parts.1, parts.2)

/-- The set that the text between the braces of a property stands for. -/
def propertySet? (text : List Char) : Option CharSet :=
  match splitAt? ['!', '='] text with
  | some (name, value) => Property.valued? name value
  | none =>
    match splitAt? [':'] text with
    | some (name, value) => Property.valued? name value
    | none =>
      match splitAt? ['='] text with
      | some (name, value) => Property.valued? name value
      | none => Property.named? text

/-- The characters with a property, given by a letter or by a text in braces. -/
def property (flags : Flags) (negated : Bool) : Reading CharSet := do
  let set? ← match ← next? with
    | some '{' =>
      step flags
      let text ← collectAll flags (· ≠ '}')
      expect '}'
      pure (propertySet? text)
    | some '\\' => failure
    | some c =>
      step flags
      pure (Property.named? [c])
    | none => failure
  require flags.unicode
  let set ← ofOption set?
  return complementIf negated (foldIf flags set)

/-! ## Characters by number -/

/-- The value of a digit to the base sixteen. -/
def hexDigit? (c : Char) : Option Nat :=
  if '0' ≤ c ∧ c ≤ '9' then some (c.toNat - '0'.toNat)
  else if 'a' ≤ c ∧ c ≤ 'f' then some (c.toNat - 'a'.toNat + 10)
  else if 'A' ≤ c ∧ c ≤ 'F' then some (c.toNat - 'A'.toNat + 10)
  else none

/-- The character with a number. -/
def charOfCode? (code : Nat) : Option Char :=
  if code.isValidChar then some (Char.ofNat code) else none

/-- The character whose number some digits to the base sixteen are. -/
def charOfHex? (digits : List Char) : Option Char :=
  (digits.foldlM (fun value c => (hexDigit? c).map (16 * value + ·)) 0).bind charOfCode?

/-- So many characters, each with the blanks after it. -/
def take (flags : Flags) : Nat → Reading (List Char)
  | 0 => return []
  | count + 1 => do
    let c ← ofOption (← next?)
    step flags
    return c :: (← take flags count)

/-- A character by its number, in braces or with as many digits as the letter asks for. -/
def numbered (flags : Flags) (letter : Char) : Reading Primitive := do
  match ← next? with
  | some '{' =>
    step flags
    let digits ← collectAll flags (· ≠ '}')
    require ((← next?) == some '}')
    step flags
    require !digits.isEmpty
    return .literal (← ofOption (charOfHex? digits)) false
  | _ =>
    let digits ← take flags (match letter with | 'x' => 2 | 'u' => 4 | _ => 8)
    return .literal (← ofOption (charOfHex? digits)) (letter == 'x')

/-! ## Assertions -/

/-- The characters that words are made of. -/
def wordOf (flags : Flags) : CharSet := if flags.unicode then wordSet else asciiWordSet

/-- A character of the name of an edge of words. -/
def isEdgeNameChar (c : Char) : Bool := c.isAlpha || c == '-'

/-- An edge of a word, perhaps with a name in braces.  Braces that hold no name belong to what
follows. -/
def edge (flags : Flags) : Reading Assertion := do
  let word := wordOf flags
  let text ← left
  match text with
  | '{' :: _ =>
    step flags
    match ← next? with
    | none => failure
    | some c =>
      if isEdgeNameChar c then
        let name ← collectAll flags isEdgeNameChar
        expect '}'
        if name = "start".toList then return .wordStart word
        else if name = "end".toList then return .wordEnd word
        else if name = "start-half".toList then return .wordStartHalf word
        else if name = "end-half".toList then return .wordEndHalf word
        else failure
      else
        set text
        return .wordEdge word
  | _ => return .wordEdge word

/-- The assertion that a caret stands for. -/
def caret (flags : Flags) : Assertion :=
  if flags.multiLine then
    if flags.anyLineEnd then .startOfAnyLine else .startOfLine
  else .startOfText

/-- The assertion that a dollar sign stands for. -/
def dollar (flags : Flags) : Assertion :=
  if flags.multiLine then
    if flags.anyLineEnd then .endOfAnyLine else .endOfLine
  else .endOfText

/-! ## Escapes -/

/-- A sign that stands for itself after a backslash: every ASCII character but letters, digits and
angle brackets. -/
def isEscapable (c : Char) : Bool := c.toNat < 128 && !c.isAlphanum && c ≠ '<' && c ≠ '>'

/-- The control characters that letters stand for. -/
def controlLetters : List (Char × Char) :=
  [('a', '\x07'), ('f', '\x0C'), ('t', '\t'), ('n', '\n'), ('r', '\r'), ('v', '\x0B')]

/-- What follows a backslash. -/
def escape (flags : Flags) : Reading Primitive := do
  let c ← ofOption (← next?)
  match c with
  | 'x' | 'u' | 'U' =>
    step flags
    numbered flags c
  | 'p' | 'P' =>
    step flags
    return .set (← property flags (c == 'P'))
  | 'd' | 's' | 'w' =>
    drop 1
    return .set (letterClass flags c)
  | 'D' | 'S' | 'W' =>
    drop 1
    return .set (← checked flags (.complement (letterClass flags c)))
  | _ =>
    drop 1
    if isEscapable c then return .literal c false
    else
      match controlLetters.lookup c with
      | some control => return .literal control false
      | none =>
        match c with
        | 'A' => return .place .startOfText
        | 'z' => return .place .endOfText
        | 'b' => return .place (← edge flags)
        | 'B' => return .place (.noWordEdge (wordOf flags))
        | '<' => return .place (.wordStart (wordOf flags))
        | '>' => return .place (.wordEnd (wordOf flags))
        | _ => failure

/-- The character that a literal stands for.  A byte beyond ASCII is no character where classes are
those of ASCII. -/
def literalChar (flags : Flags) (c : Char) (isByte : Bool) : Reading Char :=
  if !flags.unicode && isByte && 0x7F < c.toNat then failure else pure c

end GoCoverage.Pattern
