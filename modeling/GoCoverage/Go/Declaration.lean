import GoCoverage.Go.Grammar
import GoCoverage.Text.Blank
import GoCoverage.Text.Position

/-! # Function and method declarations

The declarations at the top level of a source file whose lines a report lists.  A declaration is
read together with the places where it, its parameters and its receiver begin and end; the texts of
a declaration are cut from the source between those places, comments and line breaks included. -/

namespace GoCoverage.Go

open Scanner

/-- A function or method declared at the top level.  Its span runs from the word `func` to just past
its last character. -/
structure Declaration extends Text.Span where
  name : String
  /-- The receiver's type without the stars before it, for methods. -/
  receiver : Option String
  /-- Type parameters, parameters and result, as they stand in the source. -/
  signature : String
deriving DecidableEq, Repr

/-- A piece of the source: the text from where it begins, and the text from where it ends. -/
structure Extent where
  start : List Char
  finish : List Char
deriving DecidableEq

namespace Extent

/-- How many characters the piece has. -/
def length (extent : Extent) : Nat := countBefore extent.finish extent.start

/-- The characters of the piece. -/
def text (extent : Extent) : List Char := extent.start.take extent.length

end Extent

/-- A declaration as it stands in the source, before places are turned into positions. -/
structure Outline where
  name : List Char
  receiver : Option (List Char)
  signature : List Char
  extent : Extent
deriving DecidableEq

/-! ## Receivers -/

/-- Reads what the scanner reads, and answers the piece of the source it took.  The blanks before it
do not belong to it. -/
def extentOf {α : Type} (scanner : Scanner α) : Scanner (α × Extent) := do
  let start ← ahead false
  let answer ← scanner
  let finish ← remaining
  return (answer, { start := start, finish := finish })

/-- The text of a receiver's type: the stars before it are dropped, and then the blanks around what
is left. -/
def receiverText (type : List Char) : List Char :=
  Text.trim (type.dropWhile (· == '*'))

/-- The type that the first parameter with a type of its own has, in a list that goes on after the
given parameter.  Names that stand alone take the type of the parameter after them if that has a
name; otherwise the first of them is itself a type.  A parameter that takes any number of arguments
is no receiver. -/
def receiverFrom (read : Reader) :
    List Char → Option (List Char) → Scanner (Option (List Char))
  | [], _ => fail
  | _ :: fuel, alone => do
    let (form, extent) ← extentOf (Grammar.parameter read)
    let closing ← ahead false
    let type? : Option (List Char) := match form with
      | .bare => none
      | .named => some (extentAfterName extent).text
      | .typed => some (alone.getD extent.text)
      | .variadic => alone
    match closing with
    | ')' :: _ =>
      match form, type? with
      | .bare, _ => return some (alone.getD extent.text)
      | _, type? => return type?
    | ',' :: _ =>
      sign ','
      match form, type? with
      | .bare, _ =>
        match ← ahead false with
        | ')' :: _ => return some (alone.getD extent.text)
        | _ => receiverFrom read fuel (some (alone.getD extent.text))
      | _, some type => return some type
      | _, none =>
        match ← ahead false with
        | ')' :: _ => return none
        | _ => receiverFrom read fuel none
    | _ => fail
where
  /-- The piece without the name it begins with. -/
  extentAfterName (extent : Extent) : Extent :=
    { extent with start := afterBlanks false (extent.start.dropWhile Text.isIdentifierContinue) }

/-- The type of the receiver in a parameter list. -/
def receiver (read : Reader) : Scanner (Option (List Char)) := do
  sign '('
  match ← ahead false with
  | ')' :: _ => return none
  | ',' :: _ => return none
  | text => receiverFrom read text none

/-! ## Declarations -/

/-- The piece of the source that a result takes. -/
def resultExtent (read : Reader) : Scanner (Option Extent) := do
  let (_, extent) ← extentOf (Grammar.result read true)
  return some extent

/-- The result and the body of a declaration, both of which may be missing, and the piece of the
source that the result takes. -/
def resultAndBody (read : Reader) : Scanner (Option Extent) := do
  let text ← ahead true
  let result? ← if startsResult text then resultExtent read else pure none
  match ← ahead true with
  | '{' :: _ =>
    let _ ← read .block
    return result?
  | _ => return result?

/-- Type parameters in brackets, if the text goes on with a bracket. -/
def optionalTypeParameters (read : Reader) : Scanner (List Char) := do
  match ← ahead false with
  | '[' :: _ =>
    let (_, extent) ← extentOf do
      sign '['
      read .typeParameters
    return extent.text
  | _ => return []

/-- The text of a signature. -/
def signatureText (typeParameters parameters : List Char) (result? : Option Extent) : List Char :=
  typeParameters ++ parameters ++
    match result? with
    | some extent => ' ' :: extent.text
    | none => []

/-- A word that names something, and not one that begins a type. -/
def declaredName : Scanner (List Char) := do
  let (_, extent) ← extentOf anyWord
  return extent.text

/-- A function or method after its keyword. -/
def function (read : Reader) : Scanner (List Char × Option (List Char) × List Char) := do
  match ← ahead false with
  | '(' :: _ =>
    let before ← remaining
    let _ ← read .parameters
    let name ← declaredName
    require !(typeKeywords.contains (String.ofList name))
    let (_, parameters) ← extentOf (read .parameters)
    let result? ← resultAndBody read
    match ((receiver read).ways before).head? with
    | some (type?, _) =>
      return (name, type?.map receiverText, signatureText [] parameters.text result?)
    | none => fail
  | _ =>
    let name ← declaredName
    let typeParameters ← optionalTypeParameters read
    let (_, parameters) ← extentOf (read .parameters)
    let result? ← resultAndBody read
    return (name, none, signatureText typeParameters parameters.text result?)

/-- The text goes on with the head of a declared method or function, and not with a function value:
after `func` stands a name, or a parameter list, a name and another parameter list. -/
def declares (read : Reader) : Scanner Bool :=
  let head : Scanner Unit := do
    keyword "func"
    match ← ahead false with
    | '(' :: _ =>
      let _ ← read .parameters
      let word ← wordAhead false
      require !(word.isEmpty || typeKeywords.contains word)
      anyWord
      sign '('
    | _ => anyWord
  look fun text => !(head.ways text).isEmpty

/-- A function or method declaration. -/
def outline (read : Reader) : Scanner Outline := do
  let ((name, receiver, signature), extent) ← extentOf do
    keyword "func"
    function read
  return { name, receiver, signature, extent }

end GoCoverage.Go
