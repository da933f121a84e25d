import GoCoverage.Pattern.CharSet
import GoCoverage.Unicode.Word

/-! # Assertions

An assertion is about a place in a text and takes no characters.  It looks at the character before
the place and at the one after it, each of which is missing at an end of the text. -/

namespace GoCoverage.Pattern

/-- The characters that words are made of. -/
def wordSet : CharSet := .ranges Unicode.wordCharacters

/-- The ASCII characters that words are made of. -/
def asciiWordSet : CharSet := .ranges [(0x30, 0x39), (0x41, 0x5A), (0x5F, 0x5F), (0x61, 0x7A)]

/-- What is said about a place. -/
inductive Assertion where
  | startOfText
  | endOfText
  /-- A line begins; lines end in a line feed. -/
  | startOfLine
  | endOfLine
  /-- A line begins; lines end in a carriage return, a line feed, or both in this order. -/
  | startOfAnyLine
  | endOfAnyLine
  /-- A word, made of the given characters, begins or ends. -/
  | wordEdge (word : CharSet)
  | noWordEdge (word : CharSet)
  | wordStart (word : CharSet)
  | wordEnd (word : CharSet)
  /-- No word goes on from before. -/
  | wordStartHalf (word : CharSet)
  /-- No word goes on after. -/
  | wordEndHalf (word : CharSet)
deriving DecidableEq, Repr

/-- There is a character, and words are made of it. -/
def inWord (word : CharSet) : Option Char → Bool
  | some c => word.contains c
  | none => false

/-- The assertion is true of a place between two characters. -/
def Assertion.holds (before after : Option Char) : Assertion → Bool
  | startOfText => before.isNone
  | endOfText => after.isNone
  | startOfLine => before.isNone || before == some '\n'
  | endOfLine => after.isNone || after == some '\n'
  | startOfAnyLine =>
    before.isNone || before == some '\n' || (before == some '\r' && after != some '\n')
  | endOfAnyLine =>
    after.isNone || after == some '\r' || (after == some '\n' && before != some '\r')
  | wordEdge word => inWord word before != inWord word after
  | noWordEdge word => inWord word before == inWord word after
  | wordStart word => !inWord word before && inWord word after
  | wordEnd word => inWord word before && !inWord word after
  | wordStartHalf word => !inWord word before
  | wordEndHalf word => !inWord word after

end GoCoverage.Pattern
