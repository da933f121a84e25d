import GoCoverage.Pattern.Reader.Basic
import GoCoverage.Unicode.Binary
import GoCoverage.Unicode.Category

/-! # Heads of groups

A group is marked off and may have a name.  One that begins with a question mark and a colon is not
marked off; between the two it may switch letters on and, after a hyphen, off.  With a closing
parenthesis instead of the colon the letters are switched for all that follows in the group around
it. -/

namespace GoCoverage.Pattern

open Reading

/-- What stands at the beginning of a group. -/
inductive GroupHead where
  /-- A group that is marked off, perhaps with a name. -/
  | marked (name? : Option String)
  /-- A group in which some letters are switched. -/
  | opened (flags : Flags)
  /-- No group: some letters are switched for what follows. -/
  | switched (flags : Flags)
deriving DecidableEq, Repr

/-- Characters that letters and numbers of all scripts are. -/
def alphabetic : Text.CodeRanges :=
  ((Unicode.Property.named? Unicode.binaryProperties "alphabetic").map (·.table)).getD []

/-- Characters that numbers are written with. -/
def numeric : Text.CodeRanges :=
  ["nd", "nl", "no"].flatMap fun name =>
    ((Unicode.Property.named? Unicode.categories name).map (·.table)).getD []

/-- A character that the name of a group may begin with. -/
def beginsName (c : Char) : Bool := c == '_' || alphabetic.contains c.toNat

/-- A character that the name of a group may hold. -/
def continuesName (c : Char) : Bool :=
  ['_', '.', '[', ']'].contains c || alphabetic.contains c.toNat || numeric.contains c.toNat

/-- The name of a group, up to the bracket that closes it. -/
def groupName : Reading String := do
  let name := (← left).takeWhile (· ≠ '>')
  drop name.length
  expect '>'
  match name with
  | [] => failure
  | c :: others =>
    require (beginsName c && others.all continuesName)
    return String.ofList name

/-- The letters that can be switched. -/
def switchLetters : List Char := ['i', 'm', 's', 'U', 'u', 'R', 'x']

/-- The flags with a letter switched on or off.  Whether few or many repetitions are preferred,
which `U` is about, does not matter here. -/
def Flags.switch (flags : Flags) (letter : Char) (on : Bool) : Flags :=
  match letter with
  | 'i' => { flags with ignoreCase := on }
  | 'm' => { flags with multiLine := on }
  | 's' => { flags with dotMatchesAll := on }
  | 'u' => { flags with unicode := on }
  | 'R' => { flags with anyLineEnd := on }
  | 'x' => { flags with spaced := on }
  | _ => flags

/-- The flags after a text of letters, of which those after a hyphen are switched off. -/
def Flags.switchAll (flags : Flags) (on : Bool) : List Char → Flags
  | [] => flags
  | '-' :: letters => flags.switchAll false letters
  | letter :: letters => (flags.switch letter on).switchAll on letters

/-- A text of letters that can be switched: each stands once, at most one hyphen stands among them
and not at the end. -/
def isSwitchText (text : List Char) : Bool :=
  text.all (fun c => c == '-' || switchLetters.contains c) && text.eraseDups == text &&
    text.getLast? != some '-'

/-- What stands after the opening parenthesis of a group.  Groups that look ahead or behind are
refused. -/
def groupHead (flags : Flags) : Reading GroupHead := do
  skipBlanks flags
  match ← left with
  | '?' :: 'P' :: '<' :: _ =>
    drop 3
    return .marked (← groupName)
  | '?' :: '<' :: c :: _ =>
    require (c ≠ '=' ∧ c ≠ '!')
    drop 2
    return .marked (← groupName)
  | '?' :: text =>
    let letters := text.takeWhile fun c => c ≠ ':' ∧ c ≠ ')'
    require (isSwitchText letters)
    drop (letters.length + 1)
    let flags := flags.switchAll true letters
    match ← next? with
    | some ':' =>
      drop 1
      return .opened flags
    | some _ =>
      require !letters.isEmpty
      drop 1
      return .switched flags
    | none => failure
  | _ => return .marked none

end GoCoverage.Pattern
