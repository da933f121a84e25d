import GoCoverage.Go.Construct

/-! # The grammar of types

Types, type parameters, parameter lists, and the fields and elements of struct and interface types.
Every rule is given the reader of the constructs it refers to, so the rules themselves are plain
definitions; `GoCoverage.Go.Grammar` ties them together.

Where a name is followed by a bracket, what stands in the brackets decides between a length and type
arguments, and sometimes only what comes after them does. -/

namespace GoCoverage.Go.Grammar

open Scanner

/-- The result of a function, which may be missing. -/
def result (read : Reader) (lineEnds : Bool) : Scanner Unit := do
  let text ← ahead lineEnds
  if startsResult text then
    match text with
    | '(' :: _ => let _ ← read .parameters
    | _ => let _ ← read (.type lineEnds)
  else
    done ()

/-- Type arguments, if the text goes on with a bracket. -/
def optionalTypeArguments (read : Reader) (lineEnds : Bool) : Scanner Unit := do
  match ← ahead lineEnds with
  | '[' :: _ =>
    sign '['
    let _ ← read .typeArguments
  | _ => done ()

/-- The rest of a named type after its first name. -/
def namedTypeTail (read : Reader) (lineEnds : Bool) : Scanner Unit := do
  match ← ahead lineEnds with
  | '.' :: '.' :: _ => done ()
  | '.' :: _ =>
    sign '.'
    anyWord
    optionalTypeArguments read lineEnds
  | _ => optionalTypeArguments read lineEnds

/-- A value that fills the brackets alone, and the closing bracket. -/
def length (read : Reader) : Scanner Unit := do
  let phrase ← read (.expression {})
  require phrase.value
  sign ']'

/-- A type. -/
def type (read : Reader) (lineEnds : Bool) : Scanner Reading := do
  match ← ahead false with
  | '(' :: _ =>
    sign '('
    let _ ← read (.type false)
    sign ')'
    return Reading.justType
  | '*' :: _ =>
    sign '*'
    let _ ← read (.type lineEnds)
    return Reading.justType
  | '~' :: _ =>
    sign '~'
    let _ ← read (.type lineEnds)
    optionalTypeArguments read lineEnds
    return Reading.justType
  | '<' :: _ =>
    symbol "<-"
    keyword "chan"
    let _ ← read (.type lineEnds)
    return Reading.justType
  | '[' :: _ =>
    sign '['
    match ← ahead false with
    | ']' :: _ => sign ']'
    | _ => length read
    let _ ← read (.type lineEnds)
    return Reading.literalType
  | _ =>
    match ← wordAhead false with
    | "map" =>
      keyword "map"
      sign '['
      let _ ← read (.type false)
      sign ']'
      let _ ← read (.type lineEnds)
      return Reading.literalType
    | "chan" =>
      keyword "chan"
      match ← ahead false with
      | '<' :: _ => symbol "<-"
      | _ => done ()
      let _ ← read (.type lineEnds)
      return Reading.justType
    | "func" =>
      keyword "func"
      let _ ← read .parameters
      result read lineEnds
      return Reading.justType
    | "struct" =>
      keyword "struct"
      sign '{'
      match ← ahead false with
      | '}' :: _ => sign '}'
      | _ => let _ ← read .fields
      return Reading.literalType
    | "interface" =>
      keyword "interface"
      sign '{'
      match ← ahead false with
      | '}' :: _ => sign '}'
      | _ => let _ ← read .interfaceElements
      return Reading.justType
    | _ =>
      anyWord
      namedTypeTail read lineEnds
      return Reading.justType

/-- Types joined by `|`. -/
def constraint (read : Reader) (lineEnds : Bool) : Scanner Reading := do
  let _ ← read (.type lineEnds)
  match ← ahead lineEnds with
  | '|' :: _ =>
    sign '|'
    read (.constraint lineEnds)
  | _ => return Reading.justType

/-- Type arguments from one on, and the closing bracket. -/
def typeArguments (read : Reader) : Scanner Reading := do
  let _ ← read (.constraint false)
  match ← ahead false with
  | ',' :: _ =>
    sign ','
    match ← ahead false with
    | ']' :: _ =>
      sign ']'
      aPhrase
    | _ => read .typeArguments
  | _ =>
    sign ']'
    aPhrase

/-- Declarations of type parameters from one name on, and the closing bracket. -/
def typeParameters (read : Reader) : Scanner Reading := do
  anyWord
  match ← ahead false with
  | ',' :: _ =>
    sign ','
    read .typeParameters
  | _ =>
    let _ ← read (.constraint false)
    match ← ahead false with
    | ',' :: _ =>
      sign ','
      match ← ahead false with
      | ']' :: _ =>
        sign ']'
        aPhrase
      | _ => read .typeParameters
    | _ =>
      sign ']'
      aPhrase

/-! ## Parameters -/

/-- The forms of a parameter. -/
inductive ParameterForm
  /-- One name, which stands for a type unless a later parameter gives it one. -/
  | bare
  /-- A name and its type. -/
  | named
  /-- A type. -/
  | typed
  /-- A parameter that takes any number of arguments. -/
  | variadic
deriving DecidableEq, Repr

/-- The two ways of reading a name and the bracket after it: a type with its arguments, or a name
and a type that begins with the bracket. -/
def bracketAfterName (read : Reader) (lineEnds : Bool) : Scanner ParameterForm :=
  both
    (do
      sign '['
      let _ ← read .typeArguments
      done .typed)
    (do
      let _ ← read (.type lineEnds)
      done .named)

/-- One parameter. -/
def parameter (read : Reader) : Scanner ParameterForm := do
  match ← ahead false with
  | '.' :: _ =>
    symbol "..."
    let _ ← read (.type false)
    return .variadic
  | _ =>
    let word ← wordAhead false
    if word.isEmpty || typeKeywords.contains word then
      let _ ← read (.type false)
      return .typed
    else
      anyWord
      match ← ahead false with
      | ',' :: _ => return .bare
      | ')' :: _ => return .bare
      | '.' :: '.' :: _ =>
        symbol "..."
        let _ ← read (.type false)
        return .variadic
      | '.' :: _ =>
        namedTypeTail read false
        return .typed
      | '[' :: _ => bracketAfterName read false
      | _ =>
        let _ ← read (.type false)
        return .named

/-- The parameters from one on, and the closing parenthesis. -/
def moreParameters (read : Reader) : Scanner Reading := do
  let _ ← parameter read
  match ← ahead false with
  | ',' :: _ =>
    sign ','
    match ← ahead false with
    | ')' :: _ =>
      sign ')'
      aPhrase
    | _ => read .moreParameters
  | _ =>
    sign ')'
    aPhrase

/-- A parameter list in parentheses, which may be empty or hold one comma. -/
def parameters (read : Reader) : Scanner Reading := do
  sign '('
  match ← ahead false with
  | ')' :: _ =>
    sign ')'
    aPhrase
  | ',' :: _ =>
    sign ','
    sign ')'
    aPhrase
  | _ => read .moreParameters

/-! ## Fields and interface elements -/

/-- The names after the first one of a field, and their type. -/
def moreNames : List Char → Scanner Unit
  | [] => fail
  | _ :: fuel => do
    sign ','
    anyWord
    match ← ahead false with
    | ',' :: _ => moreNames fuel
    | _ => done ()

/-- Names parted by commas, from the first comma on. -/
def namesAfterComma : Scanner Unit := do
  moreNames (← remaining)

/-- The embedded type of a field: a name, perhaps qualified, perhaps with type arguments. -/
def embeddedType (read : Reader) : Scanner Unit := do
  anyWord
  namedTypeTail read true

/-- A field without its tag. -/
def untaggedField (read : Reader) : Scanner Unit := do
  match ← ahead false with
  | '*' :: _ =>
    sign '*'
    embeddedType read
  | _ =>
    anyWord
    match ← ahead true with
    | ',' :: _ =>
      namesAfterComma
      let _ ← read (.type true)
    | '.' :: _ => namedTypeTail read true
    | '[' :: _ => let _ ← bracketAfterName read true
    | '\n' :: _ | ';' :: _ | '\x00' :: _ | '}' :: _ | '"' :: _ | '`' :: _ => done ()
    | _ => let _ ← read (.type true)

/-- A field. -/
def field (read : Reader) : Scanner Unit := do
  untaggedField read
  match ← ahead true with
  | '"' :: _ => stringLiteral
  | '`' :: _ => stringLiteral
  | _ => done ()

/-- What ends one of the members in braces: the closing brace, or a terminator and perhaps more
members. -/
def afterMember (more : Scanner Reading) : Scanner Reading := do
  match ← ahead true with
  | '}' :: _ =>
    sign '}'
    aPhrase
  | _ =>
    terminator
    match ← ahead false with
    | '}' :: _ =>
      sign '}'
      aPhrase
    | _ => more

/-- The fields of a struct from one on, and the closing brace. -/
def fields (read : Reader) : Scanner Reading := do
  field read
  afterMember (read .fields)

/-- A method of an interface or a constraint on its types. -/
def interfaceElement (read : Reader) : Scanner Unit := do
  let word ← wordAhead false
  if word.isEmpty || typeKeywords.contains word then
    let _ ← read (.constraint true)
  else
    both
      (do
        anyWord
        match ← ahead true with
        | '(' :: _ =>
          let _ ← read .parameters
          result read true
        | _ => fail)
      (do
        let _ ← read (.constraint true))

/-- The elements of an interface from one on, and the closing brace. -/
def interfaceElements (read : Reader) : Scanner Reading := do
  interfaceElement read
  afterMember (read .interfaceElements)

end GoCoverage.Go.Grammar
