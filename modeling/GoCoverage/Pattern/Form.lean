import GoCoverage.Pattern.Basic

/-! # Simple forms

The same pattern can be written in several ways, and what is carried out is its simple form.
Characters in a row are a word, parts in a row and branches of a choice are lists that hold no
others of their kind, a choice between single characters or between sets is one set, and what all
branches begin with stands before the choice.  A repetition that makes no difference is left out. -/

namespace GoCoverage.Pattern

open Text (CodeRanges)

/-- The simple form of a pattern. -/
inductive Form where
  | nothing
  /-- One or more characters as they are. -/
  | word (characters : List Char)
  /-- A character of an ordered table. -/
  | set (table : CodeRanges)
  | place (assertion : Assertion)
  | group (body : Form)
  | repeated (body : Form) (least : Nat) (most : Option Nat)
  | sequence (parts : List Form)
  | choice (branches : List Form)
deriving Repr

namespace Form

/-! ## Lengths -/

/-- How many bytes a match may have, if there is a largest number. -/
structure Lengths where
  least : Nat
  most : Option Nat
deriving DecidableEq, Repr

namespace Lengths

/-- The lengths of matches in a row. -/
def add (lengths others : Lengths) : Lengths where
  least := lengths.least + others.least
  most := lengths.most.bind fun most => others.most.map (most + ·)

/-- The lengths of the matches of either. -/
def join (lengths others : Lengths) : Lengths where
  least := min lengths.least others.least
  most := lengths.most.bind fun most => others.most.map (max most ·)

/-- The lengths of so many matches in a row. -/
def times (lengths : Lengths) (least : Nat) (most : Option Nat) : Lengths where
  least := least * lengths.least
  most := most.bind fun times => lengths.most.map (times * ·)

end Lengths

/-- How many bytes a character has. -/
def encodedLength (code : Nat) : Nat := (Char.ofNat code).utf8Size

/-- The lengths of the characters of an ordered table. -/
def lengthsOfTable (table : CodeRanges) : Lengths where
  least := (table.head?.map fun range => encodedLength range.1).getD 0
  most := table.getLast?.map fun range => encodedLength range.2

mutual

/-- The lengths of the matches of a form. -/
def lengths : Form → Lengths
  | nothing | place _ => ⟨0, some 0⟩
  | word characters =>
    let length := characters.foldl (fun length c => length + c.utf8Size) 0
    ⟨length, some length⟩
  | set table => lengthsOfTable table
  | group body => body.lengths
  | repeated body least most => body.lengths.times least most
  | sequence parts => (lengthsOfAll parts).foldl .add ⟨0, some 0⟩
  | choice branches =>
    match lengthsOfAll branches with
    | [] => ⟨0, none⟩
    | lengths :: others => others.foldl .join lengths

/-- The lengths of the matches of each form. -/
def lengthsOfAll : List Form → List Lengths
  | [] => []
  | form :: forms => form.lengths :: lengthsOfAll forms

end

/-! ## Rows -/

/-- The parts of a row. -/
def parts : Form → List Form
  | nothing => []
  | sequence parts => parts
  | form => [form]

/-- A part put before a row.  Two words make one. -/
def before : Form → List Form → List Form
  | word characters, word others :: parts => word (characters ++ others) :: parts
  | part, parts => part :: parts

/-- The form of a row. -/
def ofParts : List Form → Form
  | [] => nothing
  | [part] => part
  | parts => sequence parts

/-- Two forms in a row. -/
def row (first second : Form) : Form := ofParts (first.parts.foldr before second.parts)

/-! ## Sets and repetitions -/

/-- A character of an ordered table; a table of one character is a word. -/
def ofTable : CodeRanges → Form
  | [(first, last)] => if first = last then word [Char.ofNat first] else set [(first, last)]
  | table => set table

/-- A form repeated.  If it matches nothing but the empty text, once is enough. -/
def times (body : Form) (least : Nat) (most : Option Nat) : Form :=
  let isHollow := body.lengths.most = some 0
  let least := if isHollow then min least 1 else least
  let most := if isHollow then some (min (most.getD 1) 1) else most
  if least = 0 ∧ most = some 0 then nothing
  else if least = 1 ∧ most = some 1 then body
  else repeated body least most

/-! ## Choices -/

/-- The branches of a choice. -/
def branches : Form → List Form
  | choice branches => branches
  | form => [form]

/-- The code point, of a form that is a single character. -/
def code? : Form → Option Nat
  | word [c] => some c.toNat
  | _ => none

/-- The table, of a form that is a set. -/
def table? : Form → Option CodeRanges
  | set table => some table
  | _ => none

/-- A choice between single characters, or one between sets, as one set. -/
def merged? (branches : List Form) : Option Form :=
  match branches.mapM code? with
  | some codes => some (ofTable (CodeRanges.ordered (codes.map fun code => (code, code))))
  | none => (branches.mapM table?).map fun tables => ofTable (CodeRanges.ordered tables.flatten)

/-- One of several forms, with a choice among them opened and with single characters merged. -/
def either (forms : List Form) : Form :=
  match forms.flatMap branches with
  | [form] => form
  | branches => (merged? branches).getD (choice branches)

mutual

/-- Two forms are alike.  Groups are not: each is a group of its own. -/
def isLike : Form → Form → Bool
  | nothing, nothing => true
  | word characters, word others => characters == others
  | set table, set other => table == other
  | place assertion, place other => assertion == other
  | repeated body least most, repeated other least' most' =>
    body.isLike other && least == least' && most == most'
  | sequence parts, sequence others => areLike parts others
  | choice branches, choice others => areLike branches others
  | _, _ => false

/-- The forms of two lists are alike. -/
def areLike : List Form → List Form → Bool
  | [], [] => true
  | form :: forms, other :: others => form.isLike other && areLike forms others
  | _, _ => false

end

/-- The parts that two rows begin with. -/
def shared : List Form → List Form → List Form
  | part :: parts, other :: others => if part.isLike other then part :: shared parts others else []
  | _, _ => []

/-- The parts of a form that is a row of several. -/
def several : Form → List Form
  | sequence parts => parts
  | _ => []

/-- One of several forms.  What all of them begin with, if all are rows, stands before the
choice. -/
def oneOf : List Form → Form
  | [form] => form
  | forms =>
    match either forms with
    | choice (first :: others) =>
      let start := others.foldl (fun start branch => shared start branch.several) first.several
      if start.isEmpty then choice (first :: others)
      else
        row (ofParts start)
          (either ((first :: others).map fun branch => ofParts (branch.parts.drop start.length)))
    | form => form

end Form

/-- The simple forms of the branches of a pattern. -/
def forms : Pattern → List Form
  | nothing => [.nothing]
  | one set => [.ofTable set.table]
  | place assertion => [.place assertion]
  | group body => [.group (.oneOf body.forms)]
  | sequence first second => [.row (.oneOf first.forms) (.oneOf second.forms)]
  | choice first second => .oneOf first.forms :: second.forms
  | repeated body least most => [(Form.oneOf body.forms).times least most]

end GoCoverage.Pattern
