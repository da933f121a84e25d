import GoCoverage.Conversion
import GoCoverage.Report.Json
import GoCoverage.Report.Xml

/-! # The coverage report of a module

From the text of a profile to the text of a report.  The patterns are looked at before anything is
read from the module, and the module before the profile.  A failure is reported together with what
was being done. -/

namespace GoCoverage

namespace Report

/-- How a report is written. -/
inductive Format where
  | xml
  | json
deriving DecidableEq, Repr

/-- The text of a report. -/
def render (report : Report) : Format → String
  | .xml => report.toXml
  | .json => report.toJson

end Report

namespace Command

/-- What a report is made of besides the profile. -/
structure Options where
  /-- The directory of the module. -/
  moduleRoot : String
  /-- Classes are files and not types. -/
  byFiles : Bool
  ignore : Ignore.Settings
  format : Report.Format
deriving DecidableEq, Repr

/-- The options of a command that gives none. -/
def Options.default : Options where
  moduleRoot := "."
  byFiles := false
  ignore := .none
  format := .xml

/-- A failure, and what was being done when it came up. -/
structure Trouble where
  activity : String
  failure : Failure
deriving DecidableEq, Repr

/-- The words for what went wrong, from the outermost to the innermost. -/
def Trouble.chain (trouble : Trouble) : List String :=
  trouble.activity :: trouble.failure.message :: trouble.failure.reasons

/-- A result whose failure says what was being done. -/
def during {α : Type} (activity : String) : Except Failure α → Except Trouble α
  | .ok a => .ok a
  | .error failure => .error { activity, failure }

/-- How declarations are grouped. -/
def Options.grouping (options : Options) : Report.Grouping :=
  if options.byFiles then .byFile else .byType

/-- The text of the report for the text of a profile. -/
def coverage (files : Files) (options : Options) (timestamp : Int) (profile : String) :
    Except Trouble String := do
  let ignore ← during "Bad ignore pattern" (Ignore.ofSettings options.ignore)
  let module ← during s!"Failed to load Go module at {options.moduleRoot}"
    (Module.load files options.moduleRoot)
  let conversion : Conversion :=
    { resolve := module.resolve files, files, ignore, grouping := options.grouping, timestamp }
  let report ← during "Code coverage conversion failed" (conversion.convertText profile).2
  return report.render options.format

end Command

end GoCoverage
