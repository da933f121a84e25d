import GoCoverage.Discovery
import GoCoverage.Files.Access
import GoCoverage.Files.Path

/-! # File trees

A tree of directories and files, with a directory in it from which relative paths are followed.  A
path is followed part by part: an empty part and `.` stay in a directory, `..` leads to the
directory above, and of the root to itself.  Only a directory has parts below it, so a slash after a
file leads nowhere. -/

namespace GoCoverage.Files

/-- A file with its content, or a directory with what is in it. -/
inductive Node where
  | file (content : List UInt8)
  | directory (entries : List (String × Node))

namespace Node

/-- A directory without files. -/
def emptyDirectory : Node := directory []

/-- What has the given name in a directory. -/
def child? (name : String) : Node → Option Node
  | file _ => none
  | directory entries => entries.lookup name

/-- What is at the end of a way down. -/
def at? (node : Node) (steps : List String) : Option Node :=
  steps.foldlM (fun node name => node.child? name) node

/-- The tree with another node at the end of a way down.  Directories on the way are made if they
are missing. -/
def put (new : Node) : List String → Node → Node
  | [], _ => new
  | name :: steps, node =>
    let entries := match node with
      | directory entries => entries
      | file _ => []
    directory <|
      changeOrAdd (·.1 == name) (name, emptyDirectory)
        (fun entry => (entry.1, put new steps entry.2)) entries

/-- The names of the files in a directory. -/
def fileNames : Node → List String
  | file _ => []
  | directory entries =>
    entries.filterMap fun entry =>
      match entry.2 with
      | file _ => some entry.1
      | directory _ => none

end Node

/-- A tree, and the way from its root down to the current directory. -/
structure Tree where
  root : Node
  current : List String

namespace Tree

/-! ## Following paths -/

/-- The longest name, in bytes. -/
def longestName : Nat := 255

/-- The longest path, in bytes. -/
def longestPath : Nat := 4095

/-- Where the parts of a path lead from a place. -/
def walk (root : Node) : List String → List String → Except Fault (List String)
  | place, [] => .ok place
  | place, part :: parts =>
    match root.at? place with
    | none => .error .notFound
    | some (.file _) => .error .notADirectory
    | some (.directory entries) =>
      if part = "" ∨ part = "." then walk root place parts
      else if part = ".." then walk root place.dropLast parts
      else if longestName < part.utf8ByteSize then .error .nameTooLong
      else
        match entries.lookup part with
        | none => .error .notFound
        | some _ => walk root (place ++ [part]) parts

/-- Paths that cannot be followed, whatever is on the disk. -/
def check (path : String) : Except Fault Unit :=
  if path.toList.contains '\x00' then .error .zeroInPath
  else if path.isEmpty then .error .notFound
  else if longestPath < path.utf8ByteSize then .error .nameTooLong
  else .ok ()

/-- Where paths begin to be followed. -/
def origin (tree : Tree) (path : String) : List String :=
  if Path.isAbsolute path then [] else tree.current

/-- The way from the root to what is at a path. -/
def locate (tree : Tree) (path : String) : Except Fault (List String) := do
  check path
  walk tree.root (tree.origin path) (Path.parts path)

/-- What is at a path. -/
def node (tree : Tree) (path : String) : Except Fault Node := do
  let place ← tree.locate path
  match tree.root.at? place with
  | some node => .ok node
  | none => .error .notFound

/-- A way down as an absolute path. -/
def absolute (place : List String) : String := "/" ++ "/".intercalate place

/-! ## What is seen of a tree -/

/-- The content of the file at a path. -/
def read (tree : Tree) (path : String) : Except Fault (List UInt8) := do
  match ← tree.node path with
  | .file content => .ok content
  | .directory _ => .error .isADirectory

/-- The names of the files in the directory at a path. -/
def list (tree : Tree) (path : String) : Except Fault (List String) := do
  match ← tree.node path with
  | .file _ => .error .notADirectory
  | node => .ok node.fileNames

/-- What a run sees of a tree. -/
def files (tree : Tree) : Files where
  canonical path := (tree.locate path).map absolute
  read := tree.read
  list := tree.list

/-! ## Writing -/

/-- The way to a file that is to be written: what is above it has to be a directory, and it must not
be one itself.  A path that ends in a slash or in dots names a directory. -/
def target (tree : Tree) (path : String) : Except Fault (List String) := do
  check path
  let parts := Path.parts path
  match (parts.filter (· ≠ "")).getLast? with
  | none => .error .isADirectory
  | some name =>
    let above := (parts.reverse.dropWhile (· = "")).tail.reverse
    let place ← walk tree.root (tree.origin path) above
    match tree.root.at? place with
    | none => .error .notFound
    | some (.file _) => .error .notADirectory
    | some (.directory entries) =>
      if parts.getLast? = some "" ∨ name = "." ∨ name = ".." then .error .isADirectory
      else if longestName < name.utf8ByteSize then .error .nameTooLong
      else
        match entries.lookup name with
        | some (.directory _) => .error .isADirectory
        | _ => .ok (place ++ [name])

/-- The tree with a text written to the file at a path, which is made if it is missing. -/
def write (tree : Tree) (path text : String) : Except Fault Tree := do
  let place ← tree.target path
  return { tree with root := Node.put (.file (Text.encode text)) place tree.root }

end Tree

end GoCoverage.Files
