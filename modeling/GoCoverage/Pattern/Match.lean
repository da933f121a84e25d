import GoCoverage.Pattern.Basic

/-! # Matching

A text has a place before each of its characters and one at its end.  A list of marks, one for each
place, stands for a set of places, and a pattern turns the places where its matches may begin into
those where they end.  Every step handles all places at once, so the work is bounded however often a
pattern could match. -/

namespace GoCoverage.Pattern

/-- A mark for every place of a text. -/
abbrev Marks := List Bool

namespace Marks

/-- The places of either. -/
def join (marks others : Marks) : Marks := List.zipWith (· || ·) marks others

/-- No place is marked. -/
def isEmpty (marks : Marks) : Bool := !marks.any id

/-- The places after a marked one and a character of a set. -/
def after (set : CharSet) (text : List Char) (marks : Marks) : Marks :=
  false :: List.zipWith (fun c mark => mark && set.contains c) text marks

/-- The places after a marked one and any number of characters of a set.  The flag says that the
place before the first mark goes on to it. -/
def sweep (set : CharSet) : Bool → List Char → Marks → Marks
  | _, _, [] => []
  | reached, [], mark :: _ => [reached || mark]
  | reached, c :: text, mark :: marks =>
    let here := reached || mark
    here :: sweep set (here && set.contains c) text marks

/-- The characters before and after every place of a text that the given character stands before. -/
def surroundings (before : Option Char) : List Char → List (Option Char × Option Char)
  | [] => [(before, none)]
  | c :: text => (before, some c) :: surroundings (some c) text

/-- The marked places of which an assertion is true. -/
def satisfying (assertion : Assertion) (text : List Char) (marks : Marks) : Marks :=
  List.zipWith (fun mark around => mark && assertion.holds around.1 around.2) marks
    (surroundings none text)

/-- The places after exactly so many steps. -/
def times (step : Marks → Marks) : Nat → Marks → Marks
  | 0, marks => marks
  | n + 1, marks => if isEmpty marks then marks else times step n (step marks)

/-- The places after at most so many steps.  A step that leads to no new place ends the search. -/
def upTo (step : Marks → Marks) : Nat → Marks → Marks
  | 0, marks => marks
  | n + 1, marks =>
    let more := join marks (step marks)
    if more = marks then marks else upTo step n more

end Marks

/-- The places where matches end that begin at marked places. -/
def run (text : List Char) : Pattern → Marks → Marks
  | nothing, marks => marks
  | one set, marks => marks.after set text
  | place assertion, marks => marks.satisfying assertion text
  | sequence first second, marks => second.run text (first.run text marks)
  | choice first second, marks => (first.run text marks).join (second.run text marks)
  | group body, marks => body.run text marks
  | repeated (one set) least none, marks =>
    Marks.sweep set false text (Marks.times (Marks.after set text) least marks)
  | repeated body least most, marks =>
    let least' := Marks.times (body.run text) least marks
    match most with
    | some most => Marks.upTo (body.run text) (most - least) least'
    | none => Marks.upTo (body.run text) (text.length + 1) least'

/-- Some part of a text matches. -/
def isIn (pattern : Pattern) (text : String) : Bool :=
  let characters := text.toList
  !(pattern.run characters (List.replicate (characters.length + 1) true)).isEmpty

end GoCoverage.Pattern
