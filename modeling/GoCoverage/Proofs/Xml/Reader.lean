import GoCoverage.Xml.Tag

/-! # Reading tags

A plain reader of tags takes a text character by character.  It knows opening, closing and
self-closing tags, attributes between double quotes, and the five entities that XML predefines; what
stands in `<?…>` and `<!…>` says nothing of elements.  The characters between an opening tag and the
closing tag of the same element are the element's text, and no character of it is dropped or
changed.  Between other tags there may be blanks only, which are ignored. -/

namespace GoCoverage.Xml

/-! ## Elements -/

/-- An element: one with elements in it, or none, or one that holds a text. -/
inductive Element where
  | node (name : String) (attributes : List Attribute) (children : List Element)
  | leaf (name : String) (attributes : List Attribute) (text : String)

/-- A text in which the references to entities are replaced, or nothing if there is another
reference in it. -/
def unescape? : List Char → Option (List Char)
  | [] => some []
  | '&' :: 'l' :: 't' :: ';' :: text => (unescape? text).map ('<' :: ·)
  | '&' :: 'g' :: 't' :: ';' :: text => (unescape? text).map ('>' :: ·)
  | '&' :: 'a' :: 'm' :: 'p' :: ';' :: text => (unescape? text).map ('&' :: ·)
  | '&' :: 'a' :: 'p' :: 'o' :: 's' :: ';' :: text => (unescape? text).map ('\'' :: ·)
  | '&' :: 'q' :: 'u' :: 'o' :: 't' :: ';' :: text => (unescape? text).map ('"' :: ·)
  | '&' :: _ => none
  | c :: text => (unescape? text).map (c :: ·)

/-- The characters that text is indented with, and that stand between attributes. -/
def isBlank (c : Char) : Bool := c == ' ' || c == '\n' || c == '\r' || c == '\t'

/-- A text of blanks. -/
def AllBlank (text : List Char) : Prop := ∀ c ∈ text, isBlank c = true

instance (text : List Char) : Decidable (AllBlank text) := List.decidableBAll _ text

/-- The characters of the names of elements and attributes. -/
def isNameChar (c : Char) : Bool :=
  c.isAlphanum || c == '-' || c == '_' || c == '.' || c == ':'

/-- A name of an element or an attribute. -/
def IsName (name : String) : Prop :=
  name.toList ≠ [] ∧ ∀ c ∈ name.toList, isNameChar c = true

instance (name : String) : Decidable (IsName name) :=
  @instDecidableAnd _ _ _ (List.decidableBAll _ name.toList)

/-! ## The reader -/

/-- What is known of an element before its tag is closed. -/
structure Head where
  name : String
  attributes : List Attribute

/-- The head with one more attribute. -/
def Head.add (head : Head) (a : Attribute) : Head :=
  { head with attributes := head.attributes ++ [a] }

/-- An element whose closing tag has not been read. -/
structure Pending where
  head : Head
  /-- The elements before it inside the same element. -/
  before : List Element

/-- What a reader has gathered. -/
structure Gathered where
  /-- The open elements, the innermost first. -/
  pending : List Pending
  /-- The elements that are complete inside the innermost open one. -/
  complete : List Element
  /-- The characters since the last tag. -/
  data : List Char

/-- Where in a text a reader stands. -/
inductive Place where
  | data
  /-- Behind the character that begins a tag. -/
  | markup
  /-- In what says nothing of elements. -/
  | declaration
  | closing (name : List Char)
  | name (name : List Char)
  /-- Behind the name and the attributes of a tag, and perhaps a blank. -/
  | tag (head : Head) (blank : Bool)
  | key (head : Head) (key : List Char)
  /-- Before the quote of a value. -/
  | equals (head : Head) (key : String)
  | value (head : Head) (key : String) (value : List Char)
  /-- Behind the slash of a tag that closes itself. -/
  | slash (head : Head)

namespace Gathered

/-- An element is open. -/
def opened (g : Gathered) (head : Head) : Gathered where
  pending := { head, before := g.complete } :: g.pending
  complete := []
  data := []

/-- More elements are complete, and some characters stand behind them. -/
def completed (g : Gathered) (elements : List Element) (data : List Char) : Gathered :=
  { g with complete := g.complete ++ elements, data }

/-- The element that a closing tag completes.  If no element is complete inside it, then what stands
between its tags is its text. -/
def element? (g : Gathered) (head : Head) : Option Element :=
  match g.complete with
  | [] =>
    (unescape? g.data).map fun text => .leaf head.name head.attributes (String.ofList text)
  | children => if AllBlank g.data then some (.node head.name head.attributes children) else none

/-- What is gathered behind a closing tag, which must be that of the innermost open element. -/
def close? (g : Gathered) (name : String) : Option Gathered :=
  match g.pending with
  | [] => none
  | { head, before } :: pending =>
    if head.name = name then
      (g.element? head).map fun element => { pending, complete := before ++ [element], data := [] }
    else none

end Gathered

/-- A reader in a text. -/
structure Reader where
  place : Place
  gathered : Gathered

namespace Reader

/-- The reader at the beginning of a text. -/
def start : Reader where
  place := .data
  gathered := { pending := [], complete := [], data := [] }

/-- The reader behind one more character in a tag, where neither a name nor a value stands. -/
def inTag (g : Gathered) (head : Head) (c : Char) : Option Reader :=
  if c = '>' then
    if AllBlank g.data then some ⟨.data, g.opened head⟩ else none
  else if c = '/' then some ⟨.slash head, g⟩
  else if isBlank c then some ⟨.tag head true, g⟩
  else none

/-- The reader behind one more character, if the character may stand there. -/
def step : Reader → Char → Option Reader
  | ⟨.data, g⟩, c =>
    if c = '<' then some ⟨.markup, g⟩ else some ⟨.data, { g with data := g.data ++ [c] }⟩
  | ⟨.markup, g⟩, c =>
    if c = '/' then some ⟨.closing [], g⟩
    else if c = '?' ∨ c = '!' then some ⟨.declaration, g⟩
    else if isNameChar c then some ⟨.name [c], g⟩
    else none
  | ⟨.declaration, g⟩, c => if c = '>' then some ⟨.data, g⟩ else some ⟨.declaration, g⟩
  | ⟨.closing name, g⟩, c =>
    if isNameChar c then some ⟨.closing (name ++ [c]), g⟩
    else if c = '>' then (g.close? (String.ofList name)).map (⟨.data, ·⟩)
    else none
  | ⟨.name name, g⟩, c =>
    if isNameChar c then some ⟨.name (name ++ [c]), g⟩
    else inTag g { name := String.ofList name, attributes := [] } c
  | ⟨.tag head blank, g⟩, c =>
    if isNameChar c then if blank then some ⟨.key head [c], g⟩ else none
    else inTag g head c
  | ⟨.key head key, g⟩, c =>
    if isNameChar c then some ⟨.key head (key ++ [c]), g⟩
    else if c = '=' then some ⟨.equals head (String.ofList key), g⟩
    else none
  | ⟨.equals head key, g⟩, c => if c = '"' then some ⟨.value head key [], g⟩ else none
  | ⟨.value head key value, g⟩, c =>
    -- References are replaced once the value is whole: only a quote itself ends it.
    if c = '"' then
      (unescape? value).map fun value => ⟨.tag (head.add (key, String.ofList value)) false, g⟩
    else some ⟨.value head key (value ++ [c]), g⟩
  | ⟨.slash head, g⟩, c =>
    if c = '>' then
      if AllBlank g.data then
        some ⟨.data, g.completed [.node head.name head.attributes []] []⟩
      else none
    else none

/-- The reader behind a text. -/
def run (reader : Reader) (text : List Char) : Option Reader := text.foldlM step reader

end Reader

/-- The element that a document holds. -/
def read? (document : String) : Option Element :=
  match Reader.start.run document.toList with
  | some ⟨.data, { pending := [], complete := [root], data }⟩ =>
    if AllBlank data then some root else none
  | _ => none

end GoCoverage.Xml
