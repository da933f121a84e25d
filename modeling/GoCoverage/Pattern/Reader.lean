import GoCoverage.Pattern.Basic
import GoCoverage.Pattern.Reader.Bracket
import GoCoverage.Pattern.Reader.Group
import GoCoverage.Pattern.Reader.Repetition
import GoCoverage.Pattern.Size

/-! # Patterns as text

A text is a pattern if it can be read to its end, no two groups have the same name, its parts are
not nested too deeply, and the pattern is not too large. -/

namespace GoCoverage.Pattern

open Reading

/-! ## Parts of a pattern -/

/-- A part of a pattern that has been read. -/
structure Part where
  pattern : Pattern
  /-- How deep its parts are nested. -/
  depth : Nat
  /-- The names of the groups in it. -/
  names : List String
  /-- It can be repeated: it is not just a switching of letters. -/
  repeatable : Bool

namespace Part

/-- A part without parts. -/
def leaf (pattern : Pattern) : Part where
  pattern := pattern
  depth := 0
  names := []
  repeatable := true

/-- A switching of letters, which matches the empty text. -/
def switch : Part := { leaf .nothing with repeatable := false }

/-- Two parts made one. -/
def join (combine : Pattern → Pattern → Pattern) (first second : Part) : Part where
  pattern := combine first.pattern second.pattern
  depth := max first.depth second.depth
  names := first.names ++ second.names
  repeatable := true

/-- The part inside another one. -/
def nested (part : Part) : Part := { part with depth := part.depth + 1, repeatable := true }

/-- A part that is marked off, perhaps with a name. -/
def marked (name? : Option String) (part : Part) : Part :=
  { part.nested with pattern := .group part.pattern, names := name?.toList ++ part.names }

/-- Several parts combined, the last one first. -/
def combineAll (combine : Pattern → Pattern → Pattern) : List Part → Part
  | [] => leaf .nothing
  | [part] => part
  | part :: parts => (parts.foldl (fun after part => join combine part after) part).nested

end Part

/-! ## Single characters -/

/-- The pattern for what a character or an escape means. -/
def ofPrimitive (flags : Flags) : Primitive → Reading Pattern
  | .literal c isByte => do
    return .one (foldIf flags (.single (← literalChar flags c isByte)))
  | .set set => return .one set
  | .place assertion => return .place assertion

/-- The characters that a dot stands for. -/
def dotSet (flags : Flags) : CharSet :=
  if flags.dotMatchesAll then .any
  else if flags.anyLineEnd then .complement (.ofChars ['\n', '\r'])
  else notLineFeed

/-- A character, a dot, an assertion or an escape. -/
def primitive (flags : Flags) : Reading Pattern := do
  let c ← ofOption (← next?)
  drop 1
  match c with
  | '\\' => ofPrimitive flags (← escape flags)
  | '.' =>
    require flags.unicode
    return .one (dotSet flags)
  | '^' => return .place (caret flags)
  | '$' => return .place (dollar flags)
  | c => ofPrimitive flags (.literal c false)

/-! ## Sequences, choices and groups -/

/-- The last part repeated; there has to be one. -/
def repeatLast (count : Count) : List Part → Reading (List Part)
  | [] => failure
  | part :: parts => do
    require part.repeatable
    return { part.nested with pattern := .repeated part.pattern count.least count.most } :: parts

/-- What stands in a group, up to its end.  Given are the parts of the current branch and the
branches before it, the last one first. -/
def body (flags : Flags) : Nat → List Part → List Part → Reading Part
  | 0, _, _ => failure
  | fuel + 1, parts, branches => do
    skipBlanks flags
    let branch := Part.combineAll .sequence parts
    match ← next? with
    | none => return .combineAll .choice (branch :: branches)
    | some ')' => return .combineAll .choice (branch :: branches)
    | some '|' =>
      drop 1
      body flags fuel [] (branch :: branches)
    | some '(' =>
      drop 1
      match ← groupHead flags with
      | .switched flags => body flags fuel (.switch :: parts) branches
      | .marked name? =>
        let inside ← body flags fuel [] []
        expect ')'
        body flags fuel (inside.marked name? :: parts) branches
      | .opened inner =>
        let inside ← body inner fuel [] []
        expect ')'
        body flags fuel (inside.nested :: parts) branches
    | some '[' =>
      let listed ← bracket flags ((← left).length + 1)
      body flags fuel ({ Part.leaf (.one listed.set) with depth := listed.depth } :: parts) branches
    | some '{' =>
      require !parts.isEmpty
      let parts ← repeatLast (← counted flags) parts
      body flags fuel parts branches
    | some c =>
      match Count.ofSign? c with
      | some count =>
        drop 1
        optionalFew
        let parts ← repeatLast count parts
        body flags fuel parts branches
      | none =>
        let pattern ← primitive flags
        body flags fuel (.leaf pattern :: parts) branches

/-! ## Limits -/

/-- How deep parts may be nested. -/
def deepest : Nat := 250

/-- How large a pattern may be. -/
def largestSize : Nat := 10 * 0x100000

/-! ## Texts -/

/-- The pattern that a text stands for, if it stands for one. -/
def ofText? (text : String) : Option Pattern := do
  let characters := text.toList
  let (part, rest) ← (body .default (characters.length + 1) [] []).run characters
  guard rest.isEmpty
  guard (part.depth ≤ deepest)
  guard (part.names.eraseDups == part.names)
  guard (part.pattern.size ≤ largestSize)
  return part.pattern

end GoCoverage.Pattern
