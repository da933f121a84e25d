import GoCoverage.Discovery
import GoCoverage.Lines
import GoCoverage.Report.Rate

/-! # The report

A report lists packages, a package classes, a class methods, and a method lines.  A class also has a
line table of its own, the lines of all its methods, so a line that two methods of a class share is
counted once for the class.  Rates and totals are kept with the nodes and brought up to date when a
node is complete. -/

namespace GoCoverage

namespace Report

/-- A function or method. -/
structure Method where
  name : String
  signature : Option String
  lineRate : Float
  lines : Lines

/-- A group of methods of one file: those of a receiver's type, or all of them. -/
structure Class where
  name : String
  file : String
  lineRate : Float
  methods : List Method
  /-- The lines of all methods. -/
  lines : Lines

/-- A package of the module. -/
structure Package where
  name : String
  lineRate : Float
  classes : List Class

end Report

/-- The coverage of a module. -/
structure Report where
  version : String
  /-- Milliseconds since the beginning of 1970. -/
  timestamp : Int
  lineRate : Float
  branchRate : Float
  linesCovered : Nat
  linesValid : Nat
  branchesCovered : Nat
  branchesValid : Nat
  complexity : Float
  /-- The directories that file names are relative to. -/
  sources : List String
  packages : List Report.Package

namespace Report

/-! ## Methods -/

namespace Method

/-- A method whose rate has not been computed. -/
def ofLines (name : String) (signature : Option String) (lines : Lines) : Method where
  name := name
  signature := signature
  lineRate := 0
  lines := lines

/-- The method with the rate of its lines. -/
def refresh (method : Method) : Method :=
  { method with lineRate := rate method.lines.covered method.lines.size }

/-- The method with the lines of another run of it. -/
def merge (method other : Method) : Method :=
  { method with lines := method.lines.merge other.lines }

end Method

/-! ## Classes -/

namespace Class

/-- A class without methods. -/
def empty (name file : String) : Class where
  name := name
  file := file
  lineRate := 0
  methods := []
  lines := .empty

/-- The class with one more method. -/
def addMethod (c : Class) (method : Method) : Class :=
  { c with methods := c.methods ++ [method] }

/-- The lines of several methods together. -/
def linesOfMethods (methods : List Method) : Lines :=
  methods.foldl (fun lines method => lines.merge method.lines) .empty

/-- The class with the lines of its methods, and with its rate and theirs. -/
def refresh (c : Class) : Class :=
  let methods := c.methods.map Method.refresh
  let lines := linesOfMethods methods
  { c with methods, lines, lineRate := rate lines.covered lines.size }

/-- Methods joined with those of another run of the same file, one by one.  A method that the other
run has not keeps its lines. -/
def mergeMethods : List Method → List Method → List Method
  | method :: methods, other :: others => method.merge other :: mergeMethods methods others
  | methods, _ => methods

/-- The class with the methods of another run of the same file: all of them if it has none yet, and
otherwise the lines of each. -/
def merge (c other : Class) : Class :=
  match c.methods with
  | [] => { c with methods := other.methods }
  | methods => { c with methods := mergeMethods methods other.methods }

end Class

/-! ## Packages -/

namespace Package

/-- A package without classes. -/
def empty (name : String) : Package where
  name := name
  lineRate := 0
  classes := []

/-- The lines of all classes; a line of two classes counts twice. -/
def linesValid (package : Package) : Nat :=
  package.classes.foldr (fun c total => c.lines.size + total) 0

/-- The executed lines of all classes. -/
def linesCovered (package : Package) : Nat :=
  package.classes.foldr (fun c total => c.lines.covered + total) 0

/-- The package with the rate of its lines. -/
def refresh (package : Package) : Package :=
  { package with lineRate := rate package.linesCovered package.linesValid }

/-- Changes the class with the given name and file, a new one if there is none. -/
def changeClass (package : Package) (name file : String) (change : Class → Class) : Package :=
  { package with
    classes := changeOrAdd (fun c => c.name == name && c.file == file) (.empty name file) change
      package.classes }

end Package

/-! ## Reports -/

/-- A report without packages. -/
def empty (timestamp : Int) : Report where
  version := ""
  timestamp := timestamp
  lineRate := 0
  branchRate := 0
  linesCovered := 0
  linesValid := 0
  branchesCovered := 0
  branchesValid := 0
  complexity := 0
  sources := []
  packages := []

/-- Lists a directory unless it is listed already. -/
def addSource (report : Report) (directory : String) : Report :=
  if report.sources.contains directory then report
  else { report with sources := report.sources ++ [directory] }

/-- Listing a directory changes nothing but the list of directories. -/
theorem addSource_eq (report : Report) (directory : String) :
    report.addSource directory =
      { report with
        sources :=
          if directory ∈ report.sources then report.sources
          else report.sources ++ [directory] } := by
  rw [addSource]
  simp only [List.contains_iff_mem]
  split <;> rfl

theorem sources_addSource (report : Report) (directory : String) :
    (report.addSource directory).sources =
      if directory ∈ report.sources then report.sources
      else report.sources ++ [directory] := by
  rw [addSource_eq]

theorem packages_addSource (report : Report) (directory : String) :
    (report.addSource directory).packages = report.packages := by
  rw [addSource_eq]

/-- Changes the package with the given name, a new one if there is none. -/
def changePackage (report : Report) (name : String) (change : Package → Package) : Report :=
  { report with
    packages := changeOrAdd (·.name == name) (.empty name) change report.packages }

/-- The lines of all packages. -/
def countValid (report : Report) : Nat :=
  report.packages.foldr (fun package total => package.linesValid + total) 0

/-- The executed lines of all packages. -/
def countCovered (report : Report) : Nat :=
  report.packages.foldr (fun package total => package.linesCovered + total) 0

/-- The report with its totals and its rate. -/
def withTotals (report : Report) : Report :=
  { report with
    linesValid := report.countValid
    linesCovered := report.countCovered
    lineRate := rate report.countCovered report.countValid }

end Report

end GoCoverage
