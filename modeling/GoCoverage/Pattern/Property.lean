import GoCoverage.Pattern.CharSet
import GoCoverage.Unicode.Age
import GoCoverage.Unicode.Binary
import GoCoverage.Unicode.Category
import GoCoverage.Unicode.Script
import GoCoverage.Unicode.ScriptExtension
import GoCoverage.Unicode.Segmentation

/-! # Character properties by name

A property of characters is named by itself, if it is one that a character has or has not, a general
category or a script, and by a name and a value otherwise.  Case, blanks, underscores and hyphens do
not matter in names, and neither does `is` at the beginning. -/

namespace GoCoverage.Pattern

open Unicode

namespace Property

/-- A name without what does not matter in it. -/
def normalize (name : List Char) : String :=
  let (begins, rest) := match name with
    | i :: s :: rest =>
      if (i = 'i' ∨ i = 'I') ∧ (s = 's' ∨ s = 'S') then (true, rest) else (false, name)
    | _ => (false, name)
  let kept := (rest.filter fun c => c ≠ ' ' ∧ c ≠ '_' ∧ c ≠ '-' ∧ c.toNat < 128).map Char.toLower
  if begins ∧ kept = ['c'] then "isc" else String.ofList kept

/-- The set of the characters with one of several properties. -/
def unionOf (properties : List Unicode.Property) : CharSet :=
  .ranges (properties.flatMap (·.table))

/-- The set of the characters with a property of a list. -/
def inList? (properties : List Unicode.Property) (name : String) : Option CharSet :=
  (Unicode.Property.named? properties name).map fun property => .ranges property.table

/-- The general category, or the group of them, with a name. -/
def category? (name : String) : Option CharSet :=
  if name = "any" then some .any
  else if name = "ascii" then some (.ranges [(0, 0x7F)])
  else if name = "assigned" then (inList? categories "unassigned").map .complement
  else
    match categoryGroups.find? (·.1.contains name) with
    | some (_, members) =>
      some (unionOf (members.filterMap (Unicode.Property.named? categories)))
    | none => inList? categories name

/-- The characters that were there in a version. -/
def age? (name : String) : Option CharSet :=
  match ages.findIdx? (·.names.contains name) with
  | some index => some (unionOf (ages.take (index + 1)))
  | none => none

/-- The set of the characters with a property that goes by one name. -/
def named? (name : List Char) : Option CharSet :=
  let name := normalize name
  (inList? binaryProperties name).orElse fun _ =>
    (category? name).orElse fun _ => inList? scripts name

/-- The set of the characters for which a property has a value. -/
def valued? (name value : List Char) : Option CharSet :=
  let name := normalize name
  let value := normalize value
  if name = "gc" ∨ name = "generalcategory" then category? value
  else if name = "sc" ∨ name = "script" then inList? scripts value
  else if name = "scx" ∨ name = "scriptextensions" then inList? scriptExtensions value
  else if name = "age" then age? value
  else if name = "gcb" ∨ name = "graphemeclusterbreak" then inList? graphemeBreaks value
  else if name = "wb" ∨ name = "wordbreak" then inList? wordBreaks value
  else if name = "sb" ∨ name = "sentencebreak" then inList? sentenceBreaks value
  else none

end Property

end GoCoverage.Pattern
