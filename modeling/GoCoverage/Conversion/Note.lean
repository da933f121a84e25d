import GoCoverage.Decimal.Rounded
import GoCoverage.Module.Package
import GoCoverage.Report.Tree

/-! # What a run notes

A run notes which module it found, what became of each profile, and the totals at the end. -/

namespace GoCoverage

/-- What a run notes. -/
inductive Note where
  | moduleFound (module : Module)
  /-- A file was left out because of its path. -/
  | ignoredPath (file : String)
  /-- A file was left out because of its content. -/
  | ignoredContent (file : String)
  /-- The blocks of a file were turned into classes. -/
  | mapped (file : String) (blocks classes : Nat)
  | totals (packages covered valid : Nat) (rate : Float)

namespace Note

/-- How much a note matters. -/
def level : Note → String
  | totals .. => "INFO"
  | _ => "DEBUG"

/-- The words of a note. -/
def text : Note → String
  | moduleFound module => s!"module {module.path} at {module.root}"
  | ignoredPath file => s!"ignoring {file} (path)"
  | ignoredContent file => s!"ignoring {file} (content)"
  | mapped file blocks classes => s!"{file}: {blocks} blocks into {classes} classes"
  | totals packages covered valid rate =>
    s!"{packages} packages, {covered}/{valid} lines covered " ++
      s!"({Decimal.rounded (Report.percent rate) 1}%)"

/-- The totals of a report. -/
def ofReport (report : Report) : Note :=
  totals report.packages.length report.linesCovered report.linesValid report.lineRate

end Note

end GoCoverage
