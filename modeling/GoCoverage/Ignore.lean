import GoCoverage.Failure
import GoCoverage.Files.Path
import GoCoverage.Pattern.Generated
import GoCoverage.Pattern.Match
import GoCoverage.Pattern.Reader

/-! # Files that are left out

A file is left out of the report as soon as one of the given patterns matches: its path, its
directory, its name or its content.  Generated files can be left out too. -/

namespace GoCoverage

open Files

namespace Ignore

/-- Which files to leave out, as it was asked for. -/
structure Settings where
  /-- Matched against the path. -/
  paths : Option String
  /-- Matched against the directory. -/
  directories : Option String
  /-- Matched against the name. -/
  names : Option String
  content : Option String
  /-- Leave out files that say they are generated. -/
  generated : Bool
deriving DecidableEq, Repr

/-- Nothing is left out. -/
def Settings.none : Settings where
  paths := .none
  directories := .none
  names := .none
  content := .none
  generated := false

end Ignore

/-- Which files are left out. -/
structure Ignore where
  paths : Option Pattern
  directories : Option Pattern
  names : Option Pattern
  content : Option Pattern
  generated : Bool

namespace Ignore

/-- The pattern that a text stands for, if one is given. -/
def compile : Option String → Except Failure (Option Pattern)
  | none => .ok none
  | some text =>
    match Pattern.ofText? text with
    | some pattern => .ok (some pattern)
    | none => .error (.invalidPattern text)

/-- The files that the settings ask for.  The first text that is no pattern is blamed. -/
def ofSettings (settings : Settings) : Except Failure Ignore := do
  let paths ← compile settings.paths
  let directories ← compile settings.directories
  let names ← compile settings.names
  let content ← compile settings.content
  return { paths, directories, names, content, generated := settings.generated }

/-- A pattern, if one is given, matches in a text. -/
def matchesIn (pattern? : Option Pattern) (text : String) : Bool :=
  match pattern? with
  | some pattern => pattern.isIn text
  | none => false

/-- What is left out depends on the content of files. -/
def needsContent (ignore : Ignore) : Bool := ignore.content.isSome || ignore.generated

/-- The directory and the name of a file; the directory of a bare name is a dot. -/
def splitPath (path : String) : String × String :=
  let (directory?, name) := Path.splitLast Path.isSlash path
  (directory?.getD ".", name)

/-- A file with the given path is left out whatever is in it. -/
def matchesPath (ignore : Ignore) (path : String) : Bool :=
  let (directory, name) := splitPath path
  matchesIn ignore.paths path || matchesIn ignore.directories directory ||
    matchesIn ignore.names name

/-- A file with the given content is left out wherever it is. -/
def matchesContent (ignore : Ignore) (content : String) : Bool :=
  (ignore.generated && Pattern.generated.isIn content) || matchesIn ignore.content content

/-- A file is left out. -/
def leavesOut (ignore : Ignore) (path content : String) : Bool :=
  ignore.matchesPath path || ignore.matchesContent content

end Ignore

end GoCoverage
