import GoCoverage.Pattern.Assertion

/-! # Patterns

A pattern describes parts of texts.  `Matches` says which: a pattern matches a text from one place
to another, places being counted in characters.  Nothing is said about which of several matches is
preferred, because only whether there is one is ever asked (`OccursIn`). -/

namespace GoCoverage

/-- A pattern. -/
inductive Pattern where
  /-- The empty text. -/
  | nothing
  /-- A character of a set. -/
  | one (set : Pattern.CharSet)
  /-- The empty text at a place of which something is true. -/
  | place (assertion : Pattern.Assertion)
  | sequence (first second : Pattern)
  | choice (first second : Pattern)
  /-- A part that is marked off, so that it could be asked where it has matched. -/
  | group (body : Pattern)
  /-- Matches in a row, at least and at most so many. -/
  | repeated (body : Pattern) (least : Nat) (most : Option Nat)
deriving DecidableEq, Repr

namespace Pattern

/-- The characters before and after a place. -/
def around (text : List Char) (i : Nat) : Option Char × Option Char :=
  (if i = 0 then none else text[i - 1]?, text[i]?)

/-- From the first place to the last one leads a chain of so many steps. -/
inductive Chain (step : Nat → Nat → Prop) : Nat → Nat → Nat → Prop where
  | none (i : Nat) : Chain step 0 i i
  | more {n i j k : Nat} : step i j → Chain step n j k → Chain step (n + 1) i k

/-- A pattern matches a text from one place to another. -/
def Matches (text : List Char) : Pattern → Nat → Nat → Prop
  | nothing, i, j => i = j
  | one set, i, j => j = i + 1 ∧ ∃ c, text[i]? = some c ∧ set.contains c = true
  | place assertion, i, j =>
    i = j ∧ assertion.holds (around text i).1 (around text i).2 = true
  | sequence first second, i, k => ∃ j, first.Matches text i j ∧ second.Matches text j k
  | choice first second, i, j => first.Matches text i j ∨ second.Matches text i j
  | group body, i, j => body.Matches text i j
  | repeated body least most, i, j =>
    ∃ n, least ≤ n ∧ (∀ m, most = some m → n ≤ m) ∧ Chain (body.Matches text) n i j

/-- Some part of a text matches. -/
def OccursIn (pattern : Pattern) (text : List Char) : Prop :=
  ∃ i j, i ≤ text.length ∧ pattern.Matches text i j

/-- Patterns in a row. -/
def sequenceOf : List Pattern → Pattern
  | [] => nothing
  | [pattern] => pattern
  | pattern :: patterns => sequence pattern (sequenceOf patterns)

/-- A text as it is. -/
def literal (text : List Char) : Pattern := sequenceOf (text.map fun c => one (.single c))

/-- Any character but a line feed. -/
def notLineFeed : CharSet := .complement (.single '\n')

end Pattern

end GoCoverage
