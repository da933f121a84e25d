/-! # Paths

A path is a text whose parts are separated by slashes.  It is absolute if it begins with one.  Paths
are kept as they were given: joining adds text and takes none away, so `.` and `..` and doubled
slashes stay where they are until the path is looked up. -/

namespace GoCoverage.Files

namespace Path

/-- The parts of a path between its slashes, empty ones included. -/
def parts (path : String) : List String :=
  (path.toList.splitOn '/').map String.ofList

/-- The path begins at the root. -/
def isAbsolute (path : String) : Bool := path.toList.head? == some '/'

/-- A path below a directory.  An absolute path is not below any. -/
def join (directory path : String) : String :=
  if isAbsolute path then path
  else
    match directory.toList.getLast? with
    | none => path
    | some '/' => directory ++ path
    | some _ => directory ++ "/" ++ path

/-- The name at the end of a path.  Empty parts and `.` do not count, and `..` is no name. -/
def fileName? (path : String) : Option String :=
  match ((parts path).filter fun part => part ≠ "" ∧ part ≠ ".").getLast? with
  | some ".." => none
  | name? => name?

/-- What stands before the last of some separators and what stands after it.  Without a separator,
nothing stands before. -/
def splitLast (isSeparator : Char → Bool) (path : String) : Option String × String :=
  let last := path.toList.reverse.takeWhile fun c => !isSeparator c
  match path.toList.reverse.drop last.length with
  | [] => (none, path)
  | _ :: before => (some (String.ofList before.reverse), String.ofList last.reverse)

/-- A slash or a backslash. -/
def isSlash (c : Char) : Bool := c == '/' || c == '\\'

/-- The name after the last slash or backslash. -/
def baseName (path : String) : String := (splitLast isSlash path).2

/-- The text without the one it begins with, if it does. -/
def strip? (start text : String) : Option String :=
  if start.toList.isPrefixOf text.toList then
    some (String.ofList (text.toList.drop start.toList.length))
  else none

/-- The name has the extension of Go files, after something else. -/
def isGoName (name : String) : Bool :=
  let ending := ".go".toList
  ending.isSuffixOf name.toList && ending.length < name.toList.length

end Path

end GoCoverage.Files
