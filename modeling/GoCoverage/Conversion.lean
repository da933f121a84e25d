import GoCoverage.Conversion.Note
import GoCoverage.Ignore
import GoCoverage.Profile.Reader
import GoCoverage.Report.Grouping

/-! # From profiles to a report

Profiles are taken one by one.  The file of a profile is found in its package and read; unless it is
left out, its declarations become the methods of classes, and these are joined with the classes that
the package already has.  The first failure ends the conversion.  Totals are computed at the end. -/

namespace GoCoverage

/-- How profiles are turned into a report. -/
structure Conversion where
  /-- The package that holds a file of a profile. -/
  resolve : String → Except Failure Module.Package
  files : Files
  ignore : Ignore
  grouping : Report.Grouping
  /-- Milliseconds since the beginning of 1970. -/
  timestamp : Int

namespace Report

/-- The package with the classes of a file, joined with those of an earlier run of the file, and
with its rate. -/
def Package.addClasses (package : Package) (classes : List Class) : Package :=
  (classes.foldl
    (fun package c => package.changeClass c.name c.file fun known => (known.merge c).refresh)
    package).refresh

end Report

namespace Conversion

/-- The report with the file of one more profile, and what there is to note about it. -/
def addProfile (conversion : Conversion) (report : Report) (profile : Profile) :
    Except Failure (Report × Note) := do
  let package ← conversion.resolve profile.file
  let report := report.addSource package.moduleRoot
  match package.relativeName? profile.file with
  | none => .error (.packageNotFound profile.file)
  | some file =>
    if conversion.ignore.matchesPath file then
      return (report, .ignoredPath file)
    else
      match package.findSource? profile.file with
      | none => .error (.packageNotFound profile.file)
      | some path =>
        let source ← (conversion.files.readText path).mapError (Failure.unreadable path)
        if conversion.ignore.needsContent && conversion.ignore.matchesContent source then
          return (report, .ignoredContent file)
        else
          match Report.classes? file source profile.blocks conversion.grouping with
          | none => .error (.unparsableSource file)
          | some classes =>
            return (report.changePackage package.id (·.addClasses classes),
              .mapped file profile.blocks.length classes.length)

/-- The report with the files of all profiles, and what was noted up to the first failure. -/
def addProfiles (conversion : Conversion) :
    Report → List Profile → List Note × Except Failure Report
  | report, [] => ([], .ok report)
  | report, profile :: profiles =>
    match conversion.addProfile report profile with
    | .error failure => ([], .error failure)
    | .ok (report, note) =>
      let (notes, result) := conversion.addProfiles report profiles
      (note :: notes, result)

/-- The report of all profiles, and what was noted on the way. -/
def convert (conversion : Conversion) (profiles : List Profile) :
    List Note × Except Failure Report :=
  let (notes, result) := conversion.addProfiles (.empty conversion.timestamp) profiles
  match result with
  | .error failure => (notes, .error failure)
  | .ok report =>
    let report := report.withTotals
    (notes ++ [.ofReport report], .ok report)

/-- The report of the profiles in a text, and what was noted on the way. -/
def convertText (conversion : Conversion) (text : String) : List Note × Except Failure Report :=
  match Profile.parse text with
  | .error fault => ([], .error (.ofProfile fault))
  | .ok profiles => conversion.convert profiles

end Conversion

end GoCoverage
