import GoCoverage.Failure
import GoCoverage.Files.Path
import GoCoverage.Module.Directive

/-! # Modules and their packages

A module is a directory with a module file in it.  A profile names source files by module path and
place in the module; the package of such a file is the directory it is in, with the Go files
there. -/

namespace GoCoverage

open Files

/-- A module: where it is, and the path its files are named by. -/
structure Module where
  /-- The directory, as an absolute path. -/
  root : String
  path : String
deriving DecidableEq, Repr

namespace Module

/-- The package of a file. -/
structure Package where
  /-- The path that the package is imported by. -/
  id : String
  modulePath : String
  moduleRoot : String
  /-- The paths of the package's Go files. -/
  sources : List String
deriving DecidableEq, Repr

namespace Package

/-- The name of a file of the module, relative to the module's root. -/
def relativeName? (package : Package) (file : String) : Option String :=
  (Path.strip? package.modulePath file).bind (Path.strip? "/")

/-- The source file with the name of a profile's file. -/
def findSource? (package : Package) (file : String) : Option String :=
  package.sources.find? fun source => Path.fileName? source == some (Path.baseName file)

end Package

/-- The name of the file that makes a directory a module. -/
def fileName : String := "go.mod"

/-- The module in a directory. -/
def load (files : Files) (directory : String) : Except Failure Module := do
  let root ← (files.canonical directory).mapError (Failure.unreadable directory)
  let modFile := Path.join root fileName
  let text ← (files.readText modFile).mapError (Failure.unreadable modFile)
  match modulePath? text with
  | none => .error (.packageNotFound s!"{modFile} (no module directive)")
  | some path => .ok { root, path }

/-- The directory of a file, relative to the module's root; empty for a file in the root. -/
def directoryOf (file : String) : String := ((Path.splitLast (· == '/') file).1).getD ""

/-- The package of a directory, relative to the module's root, with the given files. -/
def packageOf (module : Module) (directory : String) (names : List String) : Package where
  id := if directory.isEmpty then module.path else module.path ++ "/" ++ directory
  modulePath := module.path
  moduleRoot := module.root
  sources :=
    ((names.filter Path.isGoName).mergeSort (· ≤ ·)).map fun name =>
      Path.join (Path.join module.root directory) name

/-- The directory of a file of a profile, relative to the module's root, if it is named as a file of
the module. -/
def directory? (module : Module) (file : String) : Option String :=
  ((Path.strip? module.path file).bind (Path.strip? "/")).map directoryOf

/-- The package that holds a file of a profile. -/
def resolve (module : Module) (files : Files) (file : String) : Except Failure Package :=
  match module.directory? file with
  | none => .error (.packageNotFound file)
  | some directory =>
    match files.list (Path.join module.root directory) with
    | .error _ => .error (.packageNotFound file)
    | .ok names => .ok (module.packageOf directory names)

end Module

end GoCoverage
