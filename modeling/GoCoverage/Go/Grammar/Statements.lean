import GoCoverage.Go.Grammar.Expressions

/-! # The grammar of statements

Declarations, simple statements, blocks, and the statements with a head and a body.  The reading of
a statement says whether it ends in a value, since only then may the end of the text close it. -/

namespace GoCoverage.Go.Grammar

open Scanner

/-! ## Groups and their specifications -/

/-- The names after a first one, if a comma follows it. -/
def optionalNames : Scanner Unit := do
  match ← ahead false with
  | ',' :: _ => namesAfterComma
  | _ => done ()

/-- The specification of constants: names, and perhaps their type and values. -/
def constantSpecification (read : Reader) : Scanner Reading := do
  anyWord
  optionalNames
  match ← ahead true with
  | '=' :: _ =>
    sign '='
    read (.values { lineEnds := true })
  | text =>
    if startsResult text then
      let _ ← read (.type false)
      sign '='
      read (.values { lineEnds := true })
    else
      aPhrase

/-- The specification of variables: names, and their type or values or both. -/
def variableSpecification (read : Reader) : Scanner Reading := do
  anyWord
  optionalNames
  match ← ahead false with
  | '=' :: _ =>
    sign '='
    read (.values { lineEnds := true })
  | _ =>
    let _ ← read (.type true)
    match ← ahead true with
    | '=' :: _ =>
      sign '='
      read (.values { lineEnds := true })
    | _ => aPhrase

/-- Declarations of type parameters in brackets before a type.  The first name is none of the words
that can begin the length of an array. -/
def parametersBeforeType (read : Reader) : Scanner Unit := do
  sign '['
  let word ← wordAhead false
  require !(typeKeywords.contains word || valueKeywords.contains word)
  let _ ← read .typeParameters
  let _ ← read (.type true)

/-- The specification of a type: its name, perhaps type parameters, and what it stands for. -/
def typeSpecification (read : Reader) : Scanner Reading := do
  anyWord
  match ← ahead false with
  | '=' :: _ =>
    sign '='
    let _ ← read (.type true)
  | '[' :: _ =>
    both
      (do
        let _ ← read (.type true))
      (parametersBeforeType read)
  | _ => let _ ← read (.type true)
  aPhrase

/-- The specifications of a group from one on, each closed by a terminator, and the closing
parenthesis. -/
def group (specification more : Scanner Reading) : Scanner Reading := do
  match ← ahead false with
  | ')' :: _ =>
    sign ')'
    aPhrase
  | _ =>
    let _ ← specification
    terminator
    more

/-- What follows the keyword of a declaration: one specification, or a group of them. -/
def declaration (specification more : Scanner Reading) : Scanner Reading := do
  match ← ahead false with
  | '(' :: _ =>
    sign '('
    more
  | _ => specification

/-! ## Simple statements -/

/-- The kinds of sign that give values to targets. -/
inductive AssignmentSign
  /-- `:=` -/
  | declares
  /-- `=` -/
  | assigns
  /-- An operator joined with `=`. -/
  | combines
deriving DecidableEq, Repr

/-- The sign of assignment the text begins with, and what follows it. -/
def assignmentSign? : List Char → Option (AssignmentSign × List Char)
  | ':' :: '=' :: rest => some (.declares, rest)
  | '=' :: '=' :: _ => none
  | '=' :: rest => some (.assigns, rest)
  | '<' :: '<' :: '=' :: rest => some (.combines, rest)
  | '>' :: '>' :: '=' :: rest => some (.combines, rest)
  | '&' :: '^' :: '=' :: rest => some (.combines, rest)
  | c :: '=' :: rest => if "+-*/%^&|".toList.contains c then some (.combines, rest) else none
  | _ => none

theorem isSuffix_of_assignmentSign? {text : List Char} {found : AssignmentSign × List Char}
    (h : assignmentSign? text = some found) : found.2 <:+ text := by
  have first {c : Char} {left : List Char} : left <:+ c :: left := List.suffix_cons c left
  have second {c d : Char} {left : List Char} : left <:+ c :: d :: left :=
    List.suffix_append [c, d] left
  have third {c d e : Char} {left : List Char} : left <:+ c :: d :: e :: left :=
    List.suffix_append [c, d, e] left
  unfold assignmentSign? at h
  split at h <;> (try split at h) <;> cases h <;>
    first | exact first | exact second | exact third

/-- Reads blanks and a sign of assignment. -/
def assignmentSign : Scanner AssignmentSign where
  ways text := (assignmentSign? (afterBlanks false text)).toList
  leavesEnd h :=
    (isSuffix_of_assignmentSign? (Option.mem_toList.mp h)).trans (afterBlanks_isSuffix false _)

/-- A sign of assignment follows, or a comma before more targets. -/
def assignmentAhead (text : List Char) : Bool :=
  text.head? = some ',' || (assignmentSign? text).isSome

/-- The targets after the first one and the sign that assigns to them. -/
def targets (read : Reader) : Scanner AssignmentSign := do
  match ← ahead false with
  | ',' :: _ =>
    sign ','
    let _ ← read (.values {})
    assignmentSign
  | _ => assignmentSign

/-- What makes a statement of its first value, the value being a bare name or not: an arrow and a
value, a step, or more targets and the values assigned to them. -/
def afterFirstValue (read : Reader) (lineEnds bare : Bool) (context : Context) :
    Scanner Reading := do
  let text ← ahead lineEnds
  match text with
  | '<' :: '-' :: _ =>
    symbol "<-"
    let _ ← value read context
    aValue
  | '+' :: '+' :: _ =>
    symbol "++"
    aPhrase
  | '-' :: '-' :: _ =>
    symbol "--"
    aPhrase
  | _ =>
    if assignmentAhead text then
      let _ ← targets read
      read (.values context)
    else
      return { value := bare }

/-- A simple statement where a block or a source file may hold it. -/
def simple (read : Reader) : Scanner Reading := do
  let first ← value read { lineEnds := true, sends := true, steps := true }
  afterFirstValue read true first.bare { lineEnds := true }

/-! ## Heads of statements -/

/-- A block in braces. -/
def block (read : Reader) : Scanner Reading := do
  sign '{'
  match ← ahead false with
  | '}' :: _ => sign '}'
  | _ =>
    let _ ← read .sequence
    sign '}'
  aPhrase

/-- The context of the first expression in the head of a statement. -/
def headContext : Context where
  bodyFollows := true
  sends := true
  steps := true

/-- A condition and the block after it. -/
def conditionAndBlock (read : Reader) : Scanner Unit := do
  let _ ← value read { bodyFollows := true }
  let _ ← read .block

/-- The rest of an `if` after its first block. -/
def alternative (read : Reader) : Scanner Unit := do
  if (← wordAhead true) = "else" then
    keyword "else"
    if (← wordAhead false) = "if" then
      keyword "if"
      let _ ← read .conditional
    else
      let _ ← read .block
  else
    done ()

/-- The head and body of an `if`, after its keyword. -/
def conditional (read : Reader) : Scanner Reading := do
  let _ ← value read headContext
  match ← ahead false with
  | '{' :: _ => let _ ← read .block
  | _ =>
    let _ ← afterFirstValue read false false {}
    sign ';'
    conditionAndBlock read
  alternative read
  aPhrase

/-- The rest of the head of a `for` after its first semicolon, and the body. -/
def loopClause (read : Reader) : Scanner Unit := do
  match ← ahead false with
  | ';' :: _ => sign ';'
  | _ =>
    let _ ← value read {}
    sign ';'
  match ← ahead false with
  | '{' :: _ => done ()
  | _ =>
    let _ ← value read headContext
    let _ ← afterFirstValue read false false { bodyFollows := true }
  let _ ← read .block

/-- The rest of the head of a `for` from `range` on, and the body. -/
def rangeClause (read : Reader) : Scanner Unit := do
  keyword "range"
  conditionAndBlock read

/-- The rest of the head of a `for` after a first value, and the body. -/
def loopTail (read : Reader) : Scanner Unit := do
  let text ← ahead false
  match text with
  | '{' :: _ => let _ ← read .block
  | _ =>
    if assignmentAhead text then
      let given ← targets read
      if given ≠ .combines && (← wordAhead false) = "range" then
        rangeClause read
      else
        let _ ← read (.values {})
        sign ';'
        loopClause read
    else
      let _ ← afterFirstValue read false false {}
      sign ';'
      loopClause read

/-- A `for` after its keyword. -/
def loop (read : Reader) : Scanner Unit := do
  match ← ahead false with
  | '{' :: _ => let _ ← read .block
  | ';' :: _ =>
    sign ';'
    loopClause read
  | _ =>
    if (← wordAhead false) = "range" then
      rangeClause read
    else
      let _ ← value read headContext
      loopTail read

/-! ## Clauses -/

/-- The head of a clause of a `select`, without its colon. -/
def communication (read : Reader) : Scanner Unit := do
  let _ ← value read { sends := true }
  let text ← ahead false
  match text with
  | '<' :: '-' :: _ =>
    symbol "<-"
    let _ ← value read {}
  | _ =>
    if assignmentAhead text then
      require ((← targets read) ≠ .combines)
      let _ ← value read {}
    else
      done ()

/-- Types parted by commas. -/
def typesOfCase (read : Reader) : List Char → Scanner Unit
  | [] => fail
  | _ :: fuel => do
    let _ ← read (.type false)
    match ← ahead false with
    | ',' :: _ =>
      sign ','
      typesOfCase read fuel
    | _ => done ()

/-- The head of a clause without its colon. -/
def clauseHead (read : Reader) : ClauseKind → Scanner Unit
  | .expression => do
    let _ ← read (.values {})
  | .type => do
    typesOfCase read (← remaining)
  | .communication => communication read

/-- The statements of a clause, which may be missing. -/
def clauseBody (read : Reader) : Scanner Unit := do
  match ← ahead false with
  | '}' :: _ => done ()
  | _ =>
    let word ← wordAhead false
    if word = "case" || word = "default" then
      done ()
    else
      let _ ← read .sequence

/-- The clauses of a `switch` or `select`, and the closing brace. -/
def clauses (read : Reader) (kind : ClauseKind) : Scanner Reading := do
  match ← ahead false with
  | '}' :: _ =>
    sign '}'
    aPhrase
  | _ =>
    if (← wordAhead false) = "default" then
      keyword "default"
    else
      keyword "case"
      clauseHead read kind
    sign ':'
    clauseBody read
    read (.clauses kind)

/-- The question `.(type)` and the clauses after it. -/
def typeClauses (read : Reader) : Scanner Unit := do
  sign '.'
  sign '('
  keyword "type"
  sign ')'
  sign '{'
  let _ ← read (.clauses .type)

/-- The rest of the head of a `switch` after the value it may ask about, and the clauses. -/
def switchTail (read : Reader) : Scanner Unit := do
  match ← ahead false with
  | '.' :: _ => typeClauses read
  | _ =>
    sign '{'
    let _ ← read (.clauses .expression)

/-- The rest of the head of a `switch` after its first semicolon, and the clauses. -/
def switchAfterInit (read : Reader) : Scanner Unit := do
  match ← ahead false with
  | '{' :: _ => switchTail read
  | _ =>
    let _ ← value read { bodyFollows := true, typeSwitch := true }
    match ← ahead false with
    | ',' :: _ =>
      sign ','
      let _ ← read (.values {})
      symbol ":="
      let _ ← value read { typeSwitch := true }
      typeClauses read
    | ':' :: _ =>
      symbol ":="
      let _ ← value read { typeSwitch := true }
      typeClauses read
    | _ => switchTail read

/-- The values given to targets in the head of a `switch`.  A single one that is declared there may
be asked for its type. -/
def switchValues (read : Reader) (given : AssignmentSign) : Scanner Unit := do
  let _ ← value read { typeSwitch := given = .declares }
  match ← ahead false with
  | '.' :: _ => typeClauses read
  | text =>
    match text with
    | ',' :: _ =>
      sign ','
      let _ ← read (.values {})
    | _ => done ()
    sign ';'
    switchAfterInit read

/-- A `switch` after its keyword. -/
def switch (read : Reader) : Scanner Unit := do
  match ← ahead false with
  | '{' :: _ => switchTail read
  | _ =>
    let _ ← value read { headContext with typeSwitch := true }
    let text ← ahead false
    match text with
    | '{' :: _ => switchTail read
    | '.' :: _ => switchTail read
    | _ =>
      if assignmentAhead text then
        switchValues read (← targets read)
      else
        let _ ← afterFirstValue read false false {}
        sign ';'
        switchAfterInit read

/-! ## Statements and lists of them -/

/-- A `return` after its keyword. -/
def returned (read : Reader) : Scanner Reading := do
  match ← ahead true with
  | '\n' :: _ | ';' :: _ | '\x00' :: _ | '}' :: _ | [] => aPhrase
  | _ =>
    let word ← wordAhead true
    if word = "case" || word = "default" then
      aPhrase
    else
      read (.values { lineEnds := true })

/-- The label after `break` or `continue`, which may be missing. -/
def optionalLabel : Scanner Reading := do
  let word ← wordAhead true
  if word.isEmpty || word = "case" || word = "default" then
    aPhrase
  else
    anyWord
    aPhrase

/-- The text after a word goes on with the colon of a label. -/
def labels (lineEnds : Bool) (text : List Char) : Bool :=
  match (word? text).map fun found => afterBlanks lineEnds found.2 with
  | some (':' :: '=' :: _) => false
  | some (':' :: _) => true
  | _ => false

/-- A statement that begins with none of the words of its kind: a label and a statement, or a simple
statement. -/
def labeledOrSimple (read : Reader) (word : String) : Scanner Reading := do
  let text ← ahead false
  if !(typeKeywords.contains word || valueKeywords.contains word) && labels true text then
    anyWord
    sign ':'
    read .statement
  else
    simple read

/-- A statement that begins with a word. -/
def wordStatement (read : Reader) (word : String) : Scanner Reading := do
  match word with
  | "const" =>
    keyword "const"
    declaration (constantSpecification read) (read .constantGroup)
  | "var" =>
    keyword "var"
    declaration (variableSpecification read) (read .variableGroup)
  | "type" =>
    keyword "type"
    declaration (typeSpecification read) (read .typeGroup)
  | "return" =>
    keyword "return"
    returned read
  | "go" =>
    keyword "go"
    let _ ← value read { lineEnds := true }
    aValue
  | "defer" =>
    keyword "defer"
    let _ ← value read { lineEnds := true }
    aValue
  | "if" =>
    keyword "if"
    read .conditional
  | "for" =>
    keyword "for"
    loop read
    aPhrase
  | "switch" =>
    keyword "switch"
    switch read
    aPhrase
  | "select" =>
    keyword "select"
    sign '{'
    read (.clauses .communication)
  | "fallthrough" =>
    keyword "fallthrough"
    aPhrase
  | "break" =>
    keyword "break"
    optionalLabel
  | "continue" =>
    keyword "continue"
    optionalLabel
  | "goto" =>
    keyword "goto"
    anyWord
    aPhrase
  | _ => labeledOrSimple read word

/-- A statement. -/
def statement (read : Reader) : Scanner Reading := do
  match ← ahead false with
  | ';' :: _ =>
    sign ';'
    aPhrase
  | '{' :: _ => read .block
  | _ => wordStatement read (← wordAhead false)

/-- Where a list of statements ends. -/
def endsSequence (text : List Char) : Bool :=
  match text with
  | '}' :: _ => true
  | _ => (afterWord? "case" text).isSome || (afterWord? "default" text).isSome

/-- The words that begin a statement of their kind and are no label. -/
def statementKeywords : List String :=
  ["const", "var", "type", "return", "go", "defer", "if", "for", "switch", "select", "fallthrough",
   "break", "continue", "goto"]

/-- The text goes on with a label after which the list of statements ends. -/
def endsInLabel (text : List Char) : Bool :=
  match word? text with
  | some (word, rest) =>
    let word := String.ofList word
    !(statementKeywords.contains word || typeKeywords.contains word || valueKeywords.contains word)
      && labels true text
      && endsSequence (afterBlanks false ((afterBlanks true rest).drop 1))
  | none => false

/-- Statements parted by terminators.  The last one may be a label without a statement. -/
def sequence (read : Reader) : Scanner Reading := do
  if endsInLabel (← ahead false) then
    anyWord
    sign ':'
    aPhrase
  else
    let last ← read .statement
    match ← ahead true with
    | '\n' :: _ | ';' :: _ | '\x00' :: _ =>
      terminator
      if endsSequence (← ahead false) then
        aPhrase
      else
        read .sequence
    | _ => done last

end GoCoverage.Go.Grammar
