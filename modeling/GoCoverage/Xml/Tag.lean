import GoCoverage.Xml.Escape

/-! # Tags and their layout

A document is written as a sequence of tags, each on a line of its own and indented by how many
elements are open around it.  An element that holds nothing but text is one item of that sequence,
so that the text stands between its tags without line breaks around it. -/

namespace GoCoverage.Xml

/-- An attribute: a name and a value. -/
abbrev Attribute := String × String

/-- An item of a document. -/
inductive Tag where
  | opening (name : String) (attributes : List Attribute)
  | closing (name : String)
  /-- An element without content. -/
  | empty (name : String) (attributes : List Attribute)
  /-- An element without attributes that holds a text. -/
  | text (name content : String)
deriving DecidableEq, Repr

/-- An element with items between its tags, or a single tag if there are none. -/
def element (name : String) (attributes : List Attribute) (content : List Tag) : List Tag :=
  match content with
  | [] => [.empty name attributes]
  | _ => .opening name attributes :: content ++ [.closing name]

/-- An attribute as it is written, with the blank before it. -/
def writeAttribute (a : Attribute) : List Char :=
  ' ' :: a.1.toList ++ '=' :: '"' :: escape a.2.toList ++ ['"']

/-- The name and the attributes of a tag. -/
def writeHead (name : String) (attributes : List Attribute) : List Char :=
  name.toList ++ attributes.flatMap writeAttribute

namespace Tag

/-- An item as it is written. -/
def write : Tag → List Char
  | opening name attributes => '<' :: writeHead name attributes ++ ['>']
  | closing name => '<' :: '/' :: name.toList ++ ['>']
  | empty name attributes => '<' :: writeHead name attributes ++ ['/', '>']
  | text name content =>
    '<' :: name.toList ++ '>' :: escape content.toList ++ '<' :: '/' :: name.toList ++ ['>']

/-- How many elements are open where an item stands, if so many are open before it. -/
def depthAt (depth : Nat) : Tag → Nat
  | closing _ => depth - 1
  | _ => depth

/-- How many elements are open after an item. -/
def depthAfter (depth : Nat) : Tag → Nat
  | opening _ _ => depth + 1
  | closing _ => depth - 1
  | _ => depth

end Tag

/-- How many blanks a level of depth is worth. -/
def indentWidth : Nat := 2

/-- The lines of a document inside so many open elements. -/
def writeTags : Nat → List Tag → List Char
  | _, [] => []
  | depth, tag :: tags =>
    List.replicate (indentWidth * tag.depthAt depth) ' ' ++ tag.write ++
      '\n' :: writeTags (tag.depthAfter depth) tags

end GoCoverage.Xml
