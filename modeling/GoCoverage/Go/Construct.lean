import GoCoverage.Go.Lexeme
import GoCoverage.Go.Scanner

/-! # Constructs of Go source

The parts of speech of the grammar, the surroundings that decide how far a part reaches, and what a
phrase may stand for once it is read.

Go writes types and values alike: `a[b]` is an element of a list or a generic type, `(x)` a value or
a type.  The grammar does not guess.  It reads the phrase once and notes in a `Reading` all that the
phrase may stand for; what follows, or the place where it stands, settles the matter. -/

namespace GoCoverage.Go

/-- What a phrase may stand for.  For a statement, `value` says that it ends in a value that an
operator could still continue. -/
structure Reading where
  value : Bool := false
  type : Bool := false
  /-- Types joined by `|`, as they stand in constraints and type arguments. -/
  constraint : Bool := false
  /-- A type that a literal in braces may follow. -/
  composite : Bool := false
  /-- The name of a type, to which type arguments may be given. -/
  generic : Bool := false
  /-- One name and nothing else. -/
  bare : Bool := false
  /-- A value with type arguments that only a call can complete. -/
  awaitsCall : Bool := false
deriving DecidableEq, Repr

namespace Reading

/-- A value and nothing else. -/
def justValue : Reading where
  value := true

/-- A type and nothing else. -/
def justType : Reading where
  type := true
  constraint := true

/-- A type that a literal in braces may follow. -/
def literalType : Reading where
  type := true
  constraint := true
  composite := true

/-- A name that may be that of a value or of a type. -/
def name : Reading where
  value := true
  type := true
  constraint := true
  composite := true
  generic := true
  bare := true

/-- A name qualified by a package. -/
def qualifiedName : Reading where
  value := true
  type := true
  constraint := true
  composite := true
  generic := true

end Reading

/-- What the surroundings of an expression allow right after it. -/
structure Context where
  /-- A line break ends the construct. -/
  lineEnds : Bool := false
  /-- A brace after a bare name opens the body of a statement. -/
  bodyFollows : Bool := false
  /-- An arrow after the expression sends to it. -/
  sends : Bool := false
  /-- A doubled sign after the expression steps it up or down. -/
  steps : Bool := false
  /-- The question `.(type)` may follow the expression. -/
  typeSwitch : Bool := false
deriving DecidableEq, Repr

/-- The three kinds of clause lists. -/
inductive ClauseKind
  | expression
  | type
  | communication
deriving DecidableEq, Repr

/-- The parts of speech that refer to each other. -/
inductive Construct
  /-- An expression, or a type where a type may stand for one. -/
  | expression (context : Context)
  /-- An expression without binary operators. -/
  | unary (context : Context)
  /-- The binary operators and operands after a first operand. -/
  | operators (context : Context) (sofar : Reading)
  /-- The selectors, indices, calls and literals after an operand. -/
  | suffixes (context : Context) (sofar : Reading)
  /-- The items in brackets from the second on, and the closing bracket. -/
  | moreItems
  /-- The elements of a composite literal, and the closing brace. -/
  | elements
  /-- The arguments of a call from the first on, and the closing parenthesis. -/
  | arguments
  /-- The arguments of `new` and `make` from the second on, and the closing parenthesis. -/
  | moreTypedArguments
  /-- Values parted by commas. -/
  | values (context : Context)
  /-- A type. -/
  | type (lineEnds : Bool)
  /-- Types joined by `|`. -/
  | constraint (lineEnds : Bool)
  /-- Type arguments and the closing bracket. -/
  | typeArguments
  /-- Declarations of type parameters and the closing bracket. -/
  | typeParameters
  /-- A parameter list in parentheses. -/
  | parameters
  /-- The parameters from one on, and the closing parenthesis. -/
  | moreParameters
  /-- The fields of a struct from one on, and the closing brace. -/
  | fields
  /-- The elements of an interface from one on, and the closing brace. -/
  | interfaceElements
  /-- A statement. -/
  | statement
  /-- Statements parted by terminators. -/
  | sequence
  /-- A block in braces. -/
  | block
  /-- The head and body of an `if` after its keyword. -/
  | conditional
  /-- The clauses of a `switch` or `select`, and the closing brace. -/
  | clauses (kind : ClauseKind)
  /-- The specifications of a group of constants, variables or types, and the closing
  parenthesis. -/
  | constantGroup
  | variableGroup
  | typeGroup
deriving DecidableEq, Repr

/-- How each construct is read. -/
abbrev Reader := Construct → Scanner Reading

namespace Scanner

/-- The text after blanks, which stays unread. -/
def ahead (lineEnds : Bool) : Scanner (List Char) := look (afterBlanks lineEnds)

/-- The word after blanks, which stays unread; empty if there is none. -/
def wordAhead (lineEnds : Bool) : Scanner String := look fun text =>
  ((word? (afterBlanks lineEnds text)).map fun found => String.ofList found.1).getD ""

/-- Reads blanks and the piece that a lexeme function takes off. -/
def piece (lineEnds : Bool) (after? : List Char → Option (List Char))
    (isSuffix : ∀ {text rest : List Char}, after? text = some rest → rest <:+ text) :
    Scanner Unit :=
  lexeme (fun text => after? (afterBlanks lineEnds text)) fun found =>
    (isSuffix found).trans (afterBlanks_isSuffix lineEnds _)

/-- Reads blanks and the given characters. -/
def symbol (characters : String) : Scanner Unit :=
  piece false (afterSymbol? characters.toList) isSuffix_of_afterSymbol?

/-- Reads blanks and the given character. -/
def sign (character : Char) : Scanner Unit :=
  piece false (afterSymbol? [character]) isSuffix_of_afterSymbol?

/-- Reads blanks and the given word. -/
def keyword (word : String) : Scanner Unit :=
  piece false (afterWord? word) isSuffix_of_afterWord?

/-- Reads blanks and any word. -/
def anyWord : Scanner Unit :=
  piece false (fun text => (word? text).map fun found => found.2) fun found => by
    obtain ⟨_, isWord, rfl⟩ := Option.map_eq_some_iff.mp found
    exact isSuffix_of_word? isWord

/-- Reads blanks and a string literal. -/
def stringLiteral : Scanner Unit := piece false afterString? isSuffix_of_afterString?

/-- Reads what ends a statement or a specification: a line break, a semicolon or a NUL. -/
def terminator : Scanner Unit := piece true afterTerminator? isSuffix_of_afterTerminator?

/-- Reads on and answers that a value was read. -/
def aValue : Scanner Reading := done Reading.justValue

/-- Reads on and answers that something was read that is no value. -/
def aPhrase : Scanner Reading := done {}

end Scanner

/-- The words that begin a type. -/
def typeKeywords : List String := ["func", "map", "chan", "struct", "interface"]

/-- The words that stand for a value and cannot name anything else where a value may stand. -/
def valueKeywords : List String := ["nil", "true", "false", "iota", "new", "make"]

/-- The text begins with something that can begin the result of a function. -/
def startsResult (text : List Char) : Bool :=
  match text with
  | '<' :: '-' :: _ => true
  | c :: _ => c == '(' || c == '*' || c == '[' || c == '~' || Text.isIdentifierStart c
  | [] => false

end GoCoverage.Go
