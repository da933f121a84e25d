import GoCoverage.Files.Access

/-! # What was seen of the disk

A run looks at few places, and which ones they are is known before the report is made.  A snapshot
holds what was found there.  What nobody has looked for counts as missing. -/

namespace GoCoverage.Files

/-- What was found at the paths that were looked at. -/
structure Snapshot where
  places : List (String × Except Fault String)
  contents : List (String × Except Fault (List UInt8))
  listings : List (String × Except Fault (List String))

namespace Snapshot

/-- Nothing has been looked at. -/
def empty : Snapshot where
  places := []
  contents := []
  listings := []

/-- What a table has for a path. -/
def answer {α : Type} (table : List (String × Except Fault α)) (path : String) : Except Fault α :=
  (table.lookup path).getD (.error .notFound)

/-- What a run sees of a snapshot. -/
def files (snapshot : Snapshot) : Files where
  canonical := answer snapshot.places
  read := answer snapshot.contents
  list := answer snapshot.listings

/-- A snapshot with the content of one more file. -/
def addContent (snapshot : Snapshot) (path : String) (content : Except Fault (List UInt8)) :
    Snapshot :=
  { snapshot with contents := (path, content) :: snapshot.contents }

/-- The names that are known in a directory. -/
def names (snapshot : Snapshot) (directory : String) : List String :=
  match snapshot.listings.lookup directory with
  | some (.ok names) => names
  | _ => []

/-- A snapshot with more names of files in a directory. -/
def addNames (snapshot : Snapshot) (directory : String) (names : List String) : Snapshot :=
  { snapshot with
    listings := (directory, .ok (names ++ snapshot.names directory)) :: snapshot.listings }

end Snapshot

end GoCoverage.Files
