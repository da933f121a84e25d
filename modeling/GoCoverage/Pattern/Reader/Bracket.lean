import GoCoverage.Pattern.Reader.Escape

/-! # Sets in brackets

A set in brackets lists characters, ranges, classes and other sets in brackets.  A caret at the
beginning stands for all that is not listed.  Lists can be combined by `&&`, `--` and `~~`, from
left to right. -/

namespace GoCoverage.Pattern

open Reading

/-- How two lists are combined. -/
inductive Combination where
  | both
  | without
  | difference
deriving DecidableEq, Repr

/-- A set, and how deep its parts are nested. -/
structure Listed where
  set : CharSet
  depth : Nat
deriving DecidableEq, Repr

namespace Listed

/-- All that is listed, the last item first. -/
def ofItems : List Listed → Listed
  | [] => { set := .empty, depth := 0 }
  | [item] => item
  | item :: items =>
    items.foldl
      (fun listed item =>
        { set := .union item.set listed.set, depth := max listed.depth (item.depth + 1) })
      { item with depth := item.depth + 1 }

/-- Two lists combined. -/
def combine (flags : Flags) (combination : Combination) (left right : Listed) : Listed :=
  let first := foldIf flags left.set
  let second := foldIf flags right.set
  { set := match combination with
      | .both => .both first second
      | .without => .without first second
      | .difference => .difference first second
    depth := max left.depth right.depth + 1 }

/-- A list combined with what stands before it, if anything does. -/
def combineWith (flags : Flags) (left : Option (Combination × Listed)) (right : Listed) : Listed :=
  match left with
  | none => right
  | some (combination, left) => combine flags combination left right

end Listed

/-- The classes of ASCII characters by name. -/
def asciiClasses : List (String × CharSet) :=
  [("alnum", .ranges [(0x30, 0x39), (0x41, 0x5A), (0x61, 0x7A)]),
    ("alpha", .ranges [(0x41, 0x5A), (0x61, 0x7A)]),
    ("ascii", .ranges [(0, 0x7F)]),
    ("blank", .ranges [(0x09, 0x09), (0x20, 0x20)]),
    ("cntrl", .ranges [(0, 0x1F), (0x7F, 0x7F)]),
    ("digit", .ranges [(0x30, 0x39)]),
    ("graph", .ranges [(0x21, 0x7E)]),
    ("lower", .ranges [(0x61, 0x7A)]),
    ("print", .ranges [(0x20, 0x7E)]),
    ("punct", .ranges [(0x21, 0x2F), (0x3A, 0x40), (0x5B, 0x60), (0x7B, 0x7E)]),
    ("space", .ranges [(0x09, 0x0D), (0x20, 0x20)]),
    ("upper", .ranges [(0x41, 0x5A)]),
    ("word", asciiWordSet),
    ("xdigit", .ranges [(0x30, 0x39), (0x41, 0x46), (0x61, 0x66)])]

/-- A class of ASCII characters at the beginning of a text, negated or not, and what follows it. -/
def asciiClass? (text : List Char) : Option (CharSet × Bool × List Char) :=
  match text with
  | '[' :: ':' :: text =>
    let (negated, text) := match text with
      | '^' :: text => (true, text)
      | _ => (false, text)
    let name := text.takeWhile (· ≠ ':')
    match text.drop name.length with
    | ':' :: ']' :: text =>
      (asciiClasses.lookup (String.ofList name)).map fun set => (set, negated, text)
    | _ => none
  | _ => none

/-- A character of a list or one end of a range. -/
def listedPrimitive (flags : Flags) : Reading Primitive := do
  let c ← ofOption (← next?)
  drop 1
  if c = '\\' then escape flags else return .literal c false

/-- A literal as a member of a list.  Only ASCII characters can be listed where classes are those of
ASCII. -/
def listedChar (flags : Flags) (c : Char) (isByte : Bool) : Reading Char := do
  let c ← literalChar flags c isByte
  require (flags.unicode || c.toNat < 128)
  return c

/-- The text after the next character, seen past blanks and past the mark that begins a comment
where they may stand anywhere; but if nothing else follows, the text as it stands. -/
def afterNext (flags : Flags) (text : List Char) : List Char :=
  let text := text.tail
  if flags.spaced then
    let seen := match text.dropWhile Text.isBlank with
      | '#' :: text => text.dropWhile Text.isBlank
      | text => text
    if seen.isEmpty then text else seen
  else text

/-- A character, a class or a range.  A hyphen makes a range unless it stands before the end of the
list or another hyphen. -/
def listedItem (flags : Flags) : Reading CharSet := do
  let first ← listedPrimitive flags
  skipBlanks flags
  let text ← left
  let alone : Bool := match text with
    | '-' :: _ =>
      match (afterNext flags text).head? with
      | some ']' => true
      | some '-' => true
      | _ => false
    | _ => true
  if alone then
    require !text.isEmpty
    match first with
    | .literal c isByte => return .single (← listedChar flags c isByte)
    | .set set => return set
    | .place _ => failure
  else
    step flags
    match first, ← listedPrimitive flags with
    | .literal low lowByte, .literal high highByte =>
      let low ← listedChar flags low lowByte
      let high ← listedChar flags high highByte
      require (low.toNat ≤ high.toNat)
      return .ranges [(low.toNat, high.toNat)]
    | _, _ => failure

/-- The hyphens that a list begins with, which stand for themselves. -/
def leadingHyphens (flags : Flags) : Nat → Reading (List Listed)
  | 0 => failure
  | fuel + 1 => do
    match ← next? with
    | none => failure
    | some '-' =>
      step flags
      return { set := .single '-', depth := 0 } :: (← leadingHyphens flags fuel)
    | some _ => return []

/-- What a list begins with: hyphens, or a closing bracket that cannot end an empty list. -/
def listStart (flags : Flags) : Reading (List Listed) := do
  let hyphens ← leadingHyphens flags ((← left).length + 1)
  match hyphens, ← next? with
  | _, none => failure
  | [], some ']' =>
    step flags
    require !(← left).isEmpty
    return [{ set := .single ']', depth := 0 }]
  | hyphens, some _ => return hyphens

mutual

/-- A set in brackets, from its opening bracket to the closing one. -/
def bracket (flags : Flags) : Nat → Reading Listed
  | 0 => failure
  | fuel + 1 => do
    step flags
    let negated := (← next?) == some '^'
    if negated then step flags
    let start ← listStart flags
    let listed ← listItems flags fuel none start
    let set ← checked flags (complementIf negated (foldIf flags listed.set))
    return { set, depth := listed.depth + 1 }

/-- The items of a list, up to the closing bracket.  Given is what stands before the list and how it
is combined with it, and the items that have been read, the last one first. -/
def listItems (flags : Flags) :
    Nat → Option (Combination × Listed) → List Listed → Reading Listed
  | 0, _, _ => failure
  | fuel + 1, before, items => do
    skipBlanks flags
    let combineBy (combination : Combination) : Reading Listed := do
      drop 2
      listItems flags fuel (some (combination, .combineWith flags before (.ofItems items))) []
    match ← left with
    | [] => failure
    | ']' :: _ =>
      drop 1
      return .combineWith flags before (.ofItems items)
    | '&' :: '&' :: _ => combineBy .both
    | '-' :: '-' :: _ => combineBy .without
    | '~' :: '~' :: _ => combineBy .difference
    | '[' :: text =>
      match asciiClass? ('[' :: text) with
      | some (set, negated, rest) =>
        StateT.set rest
        let set ← checked flags (complementIf negated (foldIf flags set))
        listItems flags fuel before ({ set, depth := 0 } :: items)
      | none =>
        let inner ← bracket flags fuel
        listItems flags fuel before (inner :: items)
    | _ =>
      let set ← listedItem flags
      listItems flags fuel before ({ set, depth := 0 } :: items)

end

end GoCoverage.Pattern
