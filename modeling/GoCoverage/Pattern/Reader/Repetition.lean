import GoCoverage.Pattern.Reader.Basic

/-! # Repetitions

A sign or a count in braces after a part of a pattern says how often it is repeated.  A question
mark after it asks for few repetitions rather than many, which makes no difference to whether there
is a match. -/

namespace GoCoverage.Pattern

open Reading

/-- How often something is repeated: at least and at most so many times. -/
structure Count where
  least : Nat
  most : Option Nat
deriving DecidableEq, Repr

/-- The largest number that can be written in braces. -/
def largestCount : Nat := 0xFFFFFFFF

/-- Takes blanks, which may stand around a number. -/
def skipBlanksOnly : Reading Unit := modify (List.dropWhile Text.isBlank)

/-- Takes blanks around a number, and where they may stand anywhere comments too. -/
def skipAround (flags : Flags) : Nat → Reading Unit
  | 0 => pure ()
  | fuel + 1 => do
    match ← next? with
    | some c =>
      if Text.isBlank c then
        step flags
        skipAround flags fuel
      else pure ()
    | none => pure ()

/-- A number in braces. -/
def count (flags : Flags) : Reading Nat := do
  skipBlanksOnly
  let digits ← collectAll flags Char.isDigit
  skipAround flags (← left).length
  require !digits.isEmpty
  let value := digits.foldl (fun value c => 10 * value + (c.toNat - '0'.toNat)) 0
  require (value ≤ largestCount)
  return value

/-- Takes the question mark that asks for few repetitions, if it is there. -/
def optionalFew : Reading Unit := do
  if (← next?) == some '?' then drop 1

/-- A count in braces, after the opening one. -/
def counted (flags : Flags) : Reading Count := do
  step flags
  let least ← count flags
  let most ← match ← next? with
    | some ',' =>
      step flags
      if (← next?) == some '}' then pure none
      else do
        pure (some (← count flags))
    | _ => pure (some least)
  require ((← next?) == some '}')
  step flags
  optionalFew
  match most with
  | some most => require (least ≤ most)
  | none => pure ()
  return { least, most }

/-- The repetition that a sign asks for. -/
def Count.ofSign? : Char → Option Count
  | '?' => some { least := 0, most := some 1 }
  | '*' => some { least := 0, most := none }
  | '+' => some { least := 1, most := none }
  | _ => none

end GoCoverage.Pattern
