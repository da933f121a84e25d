import GoCoverage.Text.Utf8

/-! # Reading files

A run looks at the disk in three ways: it finds out where a path leads, it reads a file, and it
lists the files of a directory.  `Files` holds the answers, so everything that depends on the disk
is a function of them. -/

namespace GoCoverage

namespace Files

/-- Why a path cannot be looked up, read or written. -/
inductive Fault where
  | notFound
  /-- A part of the path that is no directory is used as one. -/
  | notADirectory
  | isADirectory
  | nameTooLong
  /-- The path holds a character that ends texts for the operating system. -/
  | zeroInPath
  /-- The file is no text. -/
  | notText
  /-- Any other error, by the number and the words that the operating system has for it. -/
  | other (number : Nat) (words : String)
deriving DecidableEq, Repr

/-- The words for a fault. -/
def Fault.message : Fault → String
  | notFound => "No such file or directory (os error 2)"
  | notADirectory => "Not a directory (os error 20)"
  | isADirectory => "Is a directory (os error 21)"
  | nameTooLong => "File name too long (os error 36)"
  | zeroInPath => "file name contained an unexpected NUL byte"
  | notText => "stream did not contain valid UTF-8"
  | other number words => s!"{words} (os error {number})"

end Files

/-- What can be seen of the disk. -/
structure Files where
  /-- The absolute path, without `.` and `..`, of what is at a path. -/
  canonical : String → Except Files.Fault String
  /-- The content of a file. -/
  read : String → Except Files.Fault (List UInt8)
  /-- The names of the regular files in a directory. -/
  list : String → Except Files.Fault (List String)

namespace Files

/-- The text in a file. -/
def readText (files : Files) (path : String) : Except Fault String := do
  let bytes ← files.read path
  match Text.decode? bytes with
  | some text => .ok text
  | none => .error .notText

end Files

end GoCoverage
