import GoCoverage.Go.Grammar.Types

/-! # The grammar of expressions

Operands, what may be attached to them, operators, calls and composite literals.  A phrase in
brackets or parentheses may turn out to be a type, so these rules read types and values alike and
keep in the `Reading` what the phrase may still stand for. -/

namespace GoCoverage.Go.Grammar

open Scanner

/-! ## Values and lists of them -/

/-- An expression that stands for a value. -/
def value (read : Reader) (context : Context) : Scanner Reading := do
  let phrase ← read (.expression context)
  require phrase.value
  return phrase

/-- Values parted by commas. -/
def values (read : Reader) (context : Context) : Scanner Reading := do
  let _ ← value read context
  match ← ahead context.lineEnds with
  | ',' :: _ =>
    sign ','
    read (.values { context with typeSwitch := false })
  | _ => aValue

/-! ## Operators -/

/-- What follows the binary operator the text begins with, and whether the operator is `|`.  Signs
that assign, send or step are no binary operators. -/
def afterBinaryOperator? (context : Context) : List Char → Option (Bool × List Char)
  | '<' :: '<' :: rest => if rest.head? = some '=' then none else some (false, rest)
  | '<' :: '-' :: rest => if context.sends then none else some (false, '-' :: rest)
  | '<' :: '=' :: rest => some (false, rest)
  | '<' :: rest => some (false, rest)
  | '>' :: '>' :: rest => if rest.head? = some '=' then none else some (false, rest)
  | '>' :: '=' :: rest => some (false, rest)
  | '>' :: rest => some (false, rest)
  | '&' :: '&' :: rest => some (false, rest)
  | '&' :: '^' :: rest => if rest.head? = some '=' then none else some (false, rest)
  | '|' :: '|' :: rest => some (false, rest)
  | '=' :: '=' :: rest => some (false, rest)
  | '!' :: '=' :: rest => some (false, rest)
  | _ :: '=' :: _ => none
  | '+' :: '+' :: rest => if context.steps then none else some (false, '+' :: rest)
  | '-' :: '-' :: rest => if context.steps then none else some (false, '-' :: rest)
  | '|' :: rest => some (true, rest)
  | c :: rest => if "+-*/%^&".toList.contains c then some (false, rest) else none
  | [] => none

theorem isSuffix_of_afterBinaryOperator? {context : Context} {text rest : List Char}
    (h : (afterBinaryOperator? context text).map (·.2) = some rest) : rest <:+ text := by
  obtain ⟨⟨joins, left⟩, h, rfl⟩ := Option.map_eq_some_iff.mp h
  have first {c : Char} {left : List Char} : left <:+ c :: left := List.suffix_cons c left
  have second {c d : Char} {left : List Char} : left <:+ c :: d :: left :=
    List.suffix_append [c, d] left
  unfold afterBinaryOperator? at h
  split at h <;> (try split at h) <;> cases h <;> first | exact first | exact second

/-- The operators and operands after a first operand.  Types joined by `|` make a constraint. -/
def operators (read : Reader) (context : Context) (sofar : Reading) : Scanner Reading := do
  let lineEnds := context.lineEnds && sofar.value
  match afterBinaryOperator? context (← ahead lineEnds) with
  | some (joins, _) =>
    piece lineEnds (fun text => (afterBinaryOperator? context text).map (·.2))
      isSuffix_of_afterBinaryOperator?
    let operand ← read (.unary { context with typeSwitch := false })
    let combined : Reading := {
      value := sofar.value && operand.value
      constraint := joins && sofar.constraint && operand.type }
    require (combined.value || combined.constraint)
    read (.operators context combined)
  | none => done sofar

/-! ## What may be attached to an operand -/

/-- The bounds of a slice after the first colon, and the closing bracket. -/
def sliceBounds (read : Reader) : Scanner Unit := do
  match ← ahead false with
  | ']' :: _ => sign ']'
  | _ =>
    let _ ← value read {}
    match ← ahead false with
    | ':' :: _ =>
      sign ':'
      let _ ← value read {}
      sign ']'
    | _ => sign ']'

/-- The items in brackets from the second on, and the closing bracket.  A comma may stand before the
bracket. -/
def moreItems (read : Reader) : Scanner Reading := do
  match ← ahead false with
  | ']' :: _ =>
    sign ']'
    return Reading.justType
  | _ =>
    let item ← read (.expression {})
    require item.constraint
    match ← ahead false with
    | ',' :: _ =>
      sign ','
      let others ← read .moreItems
      return { type := item.type && others.type, constraint := true }
    | _ =>
      sign ']'
      return { type := item.type, constraint := true }

/-- What an operand stands for with the items in brackets attached. -/
def attachItems (operand items : Reading) : Reading where
  value := operand.value && items.value || operand.type && items.type
  type := operand.generic && items.constraint
  constraint := operand.generic && items.constraint
  composite := operand.generic && items.constraint
  awaitsCall := operand.value && items.constraint

/-- The brackets after an operand, if what is in them is read as values where it can be: an index,
the bounds of a slice, or types. -/
def valueItems (read : Reader) (operand : Reading) : Scanner Reading := do
  sign '['
  match ← ahead false with
  | ':' :: _ =>
    require operand.value
    sign ':'
    sliceBounds read
    aValue
  | _ =>
    let item ← read (.expression {})
    match ← ahead false with
    | ':' :: _ =>
      require (operand.value && item.value)
      sign ':'
      sliceBounds read
      aValue
    | ',' :: _ =>
      require item.constraint
      sign ','
      let others ← read .moreItems
      return attachItems operand { type := item.type && others.type, constraint := true }
    | _ =>
      sign ']'
      return attachItems operand item

/-- The brackets after the name of a type, which hold types.  A word that stands for a value is a
name like any other here. -/
def typeItems (read : Reader) (operand : Reading) : Scanner Reading := do
  require operand.generic
  sign '['
  let _ ← read .typeArguments
  return Reading.literalType

/-- The brackets after an operand. -/
def brackets (read : Reader) (operand : Reading) : Scanner Reading :=
  unlessSome (·.type) (valueItems read operand) (typeItems read operand)

/-- The arguments of a call from the first on, and the closing parenthesis. -/
def arguments (read : Reader) : Scanner Reading := do
  let _ ← value read {}
  match ← ahead false with
  | '.' :: '.' :: _ => symbol "..."
  | _ => done ()
  match ← ahead false with
  | ',' :: _ =>
    sign ','
    match ← ahead false with
    | ')' :: _ =>
      sign ')'
      aValue
    | _ => read .arguments
  | _ =>
    sign ')'
    aValue

/-- The parentheses of a call, or of a conversion where a type stands before them. -/
def call (read : Reader) (operand : Reading) : Scanner Reading := do
  sign '('
  if operand.value || operand.awaitsCall then
    match ← ahead false with
    | ')' :: _ =>
      sign ')'
      aValue
    | _ => read .arguments
  else
    require operand.type
    let _ ← value read {}
    match ← ahead false with
    | ',' :: _ => sign ','
    | _ => done ()
    sign ')'
    aValue

/-- An element of a composite literal without its key. -/
def element (read : Reader) : Scanner Unit := do
  match ← ahead false with
  | '{' :: _ =>
    sign '{'
    let _ ← read .elements
  | _ => let _ ← value read {}

/-- The elements of a composite literal, and the closing brace.  One comma may stand before the
brace. -/
def elements (read : Reader) : Scanner Reading := do
  match ← ahead false with
  | '}' :: _ =>
    sign '}'
    aValue
  | ',' :: _ =>
    sign ','
    sign '}'
    aValue
  | _ =>
    element read
    match ← ahead false with
    | ':' :: _ =>
      sign ':'
      element read
    | _ => done ()
    match ← ahead false with
    | ',' :: _ =>
      sign ','
      match ← ahead false with
      | ',' :: _ => fail
      | _ => read .elements
    | _ =>
      sign '}'
      aValue

/-- A composite literal in braces. -/
def braces (read : Reader) : Scanner Reading := do
  sign '{'
  read .elements

/-- The selectors, indices, calls and literals after an operand.

Where a line break ends the construct, a value ends at it.  A type, or a value that is also a type
made of several parts, may go on after the break with a literal or a conversion, so both ways are
followed. -/
def suffixes (read : Reader) (context : Context) (sofar : Reading) : Scanner Reading := do
  let goOn (reading : Reading) := read (.suffixes context reading)
  let lineEnds := context.lineEnds && sofar.value
  match ← ahead lineEnds with
  | '\n' :: _ =>
    if lineEnds then
      if sofar.awaitsCall || (sofar.type && !sofar.bare) then
        both (done sofar) (goOn { sofar with value := false })
      else
        done sofar
    else
      done sofar
  | '.' :: '.' :: _ => done sofar
  | '.' :: rest =>
    if !sofar.value then
      done sofar
    else
      match afterBlanks false rest with
      | '(' :: inner =>
        if context.typeSwitch && (afterWord? "type" (afterBlanks false inner)).isSome then
          done sofar
        else
          sign '.'
          sign '('
          let _ ← read (.type false)
          sign ')'
          goOn Reading.justValue
      | _ =>
        sign '.'
        anyWord
        goOn (if sofar.bare then Reading.qualifiedName else Reading.justValue)
  | '[' :: _ =>
    if sofar.value || sofar.type then
      goOn (← brackets read sofar)
    else
      done sofar
  | '(' :: _ =>
    if sofar.value || sofar.awaitsCall || sofar.type then
      goOn (← call read sofar)
    else
      done sofar
  | '{' :: _ =>
    let literal : Scanner Reading := do
      goOn (← braces read)
    if !sofar.composite then
      done sofar
    else if context.bodyFollows && sofar.value then
      if sofar.bare then done sofar else both (done sofar) literal
    else
      literal
  | _ => done sofar

/-! ## Operands -/

/-- The arguments of `new` and `make` from the second on, and the closing parenthesis. -/
def moreTypedArguments (read : Reader) : Scanner Reading := do
  match ← ahead false with
  | ',' :: _ =>
    sign ','
    match ← ahead false with
    | ')' :: _ =>
      sign ')'
      aValue
    | _ =>
      let _ ← value read {}
      read .moreTypedArguments
  | _ =>
    sign ')'
    aValue

/-- The arguments of `new` and `make`, of which the first is a type. -/
def typedArguments (read : Reader) : Scanner Reading := do
  sign '('
  match ← ahead false with
  | ')' :: _ =>
    sign ')'
    aValue
  | _ =>
    let _ ← read (.type false)
    read .moreTypedArguments

/-- A function literal, or the type of a function if no body follows. -/
def functionOperand (read : Reader) : Scanner Reading := do
  keyword "func"
  let _ ← read .parameters
  result read false
  match ← ahead false with
  | '{' :: _ =>
    let _ ← read .block
    aValue
  | _ => return Reading.justType

/-- An operand that begins with a bracket: an array or slice type, or the type of an array literal
whose length is counted. -/
def bracketOperand (read : Reader) : Scanner Reading := do
  sign '['
  match ← ahead false with
  | '.' :: '.' :: _ =>
    symbol "..."
    sign ']'
    let _ ← read (.type false)
    return { composite := true }
  | ']' :: _ =>
    sign ']'
    let _ ← read (.type false)
    return Reading.literalType
  | _ =>
    length read
    let _ ← read (.type false)
    return Reading.literalType

/-- An operand that begins with a word. -/
def wordOperand (read : Reader) (context : Context) : Scanner Reading := do
  let word ← wordAhead false
  if word = "func" then
    functionOperand read
  else if typeKeywords.contains word then
    read (.type false)
  else if word = "new" || word = "make" then
    anyWord
    match ← ahead context.lineEnds with
    | '(' :: _ => typedArguments read
    | _ => aValue
  else if valueKeywords.contains word then
    anyWord
    aValue
  else
    anyWord
    return Reading.name

/-- An operand with nothing attached. -/
def operand (read : Reader) (context : Context) : Scanner Reading := do
  match ← ahead false with
  | '(' :: _ =>
    sign '('
    let inner ← read (.expression {})
    require (inner.value || inner.type)
    sign ')'
    return { value := inner.value, type := inner.type, constraint := inner.type }
  | '[' :: _ => bracketOperand read
  | '~' :: _ =>
    sign '~'
    let _ ← read (.type false)
    return { type := true, constraint := true, generic := true }
  | '"' :: _ =>
    stringLiteral
    aValue
  | '`' :: _ =>
    stringLiteral
    aValue
  | '\'' :: _ =>
    piece false afterRune? isSuffix_of_afterRune?
    aValue
  | c :: _ =>
    if c.isDigit || c = '.' then
      piece false afterNumber? isSuffix_of_afterNumber?
      aValue
    else
      wordOperand read context
  | [] => fail

/-- An operand with all that is attached to it. -/
def primary (read : Reader) (context : Context) : Scanner Reading := do
  read (.suffixes context (← operand read context))

/-! ## Unary operators -/

/-- An operand under an operator that stands before it. -/
def underOperator (read : Reader) (context : Context) (operator : String) : Scanner Reading := do
  symbol operator
  let inner ← read (.unary { context with typeSwitch := false })
  require inner.value
  aValue

/-- An expression without binary operators.  A star makes a pointer type of a type and reads the
value that a value points to. -/
def unary (read : Reader) (context : Context) : Scanner Reading := do
  match ← ahead false with
  | '*' :: _ =>
    sign '*'
    let inner ← read (.unary { context with typeSwitch := false })
    require (inner.value || inner.type)
    return { value := inner.value, type := inner.type, constraint := inner.type }
  | '<' :: _ =>
    both
      (underOperator read context "<-")
      (do
        symbol "<-"
        keyword "chan"
        let _ ← read (.type false)
        read (.suffixes context Reading.justType))
  | '+' :: _ => underOperator read context "+"
  | '-' :: _ => underOperator read context "-"
  | '!' :: _ => underOperator read context "!"
  | '^' :: _ => underOperator read context "^"
  | '&' :: _ => underOperator read context "&"
  | _ => primary read context

/-- An expression, or a type where a type may stand for one. -/
def expression (read : Reader) (context : Context) : Scanner Reading := do
  let first ← read (.unary context)
  read (.operators context first)

end GoCoverage.Go.Grammar
