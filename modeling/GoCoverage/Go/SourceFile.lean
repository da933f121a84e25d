import GoCoverage.Go.Declaration

/-! # Source files

A source file is a sequence of package clauses, imports, declarations and statements, each closed by
a terminator.  The terminator may be missing after a last package clause, import, function or method
declaration, and where a last statement ends in a value.  Statements are allowed at the top level,
so that fragments of a file can be read too. -/

namespace GoCoverage.Go

open Scanner

/-! ## Imports -/

/-- One import: a path, perhaps with a name, a dot or an underscore before it. -/
def importSpecification : Scanner Unit := do
  match ← ahead false with
  | '.' :: _ => sign '.'
  | '"' :: _ => done ()
  | '`' :: _ => done ()
  | _ => anyWord
  stringLiteral

/-- The imports of a group from one on, and the closing parenthesis. -/
def moreImports : List Char → Scanner Unit
  | [] => fail
  | _ :: fuel => do
    importSpecification
    match ← ahead true with
    | ')' :: _ => sign ')'
    | _ =>
      terminator
      match ← ahead false with
      | ')' :: _ => sign ')'
      | _ => moreImports fuel

/-- What follows `import`. -/
def imports : Scanner Unit := do
  match ← ahead false with
  | '(' :: _ =>
    sign '('
    match ← ahead false with
    | ')' :: _ => sign ')'
    | text => moreImports text
  | _ => importSpecification

/-! ## Items of a file -/

/-- An item at the top level: the declaration it is, if any, and whether the end of the text may
close it. -/
def item (read : Reader) : Scanner (Option Outline × Bool) := do
  match ← wordAhead false with
  | "package" =>
    keyword "package"
    anyWord
    return (none, true)
  | "import" =>
    keyword "import"
    imports
    return (none, true)
  | "func" =>
    if ← declares read then
      return (some (← outline read), true)
    else
      return (none, (← read .statement).value)
  | _ => return (none, (← read .statement).value)

/-- The declarations of a file from an item on, in the order of the source. -/
def items (read : Reader) : Nat → Scanner (List Outline)
  | 0 => fail
  | fuel + 1 => do
    match ← ahead false with
    | [] => return []
    | _ =>
      let (outline?, mayEnd) ← item read
      match ← ahead true with
      | [] =>
        require mayEnd
        return outline?.toList
      | _ =>
        terminator
        return outline?.toList ++ (← items read fuel)

/-- The text without the byte order mark it may begin with. -/
def dropByteOrderMark : List Char → List Char
  | '\uFEFF' :: text => text
  | text => text

/-- The outlines of the declarations in a source text, or nothing if it is not in the grammar. -/
def outlines? (source : List Char) : Option (List Outline) :=
  let text := dropByteOrderMark source
  (((items (Construct.read (fuelFor text)) (text.length + 1)).ways text).head?).map (·.1)

/-! ## Positions of declarations -/

/-- The declarations that outlines stand for, in a text that begins at the given position.  The
position of an outline is reached from the end of the one before it. -/
def place (position : Text.Position) (text : List Char) : List Outline → List Declaration
  | [] => []
  | outline :: outlines =>
    let { start, finish } := outline.extent
    let first := position.after (text.take (countBefore start text))
    let last := first.after outline.extent.text
    { name := String.ofList outline.name
      receiver := outline.receiver.map String.ofList
      signature := String.ofList outline.signature
      start := first
      finish := last } :: place last finish outlines

/-- The functions and methods declared at the top level of a source text, in the order of the
source, or nothing if the text is not in the grammar. -/
def declarations? (source : String) : Option (List Declaration) :=
  (outlines? source.toList).map (place .start source.toList)

end GoCoverage.Go
