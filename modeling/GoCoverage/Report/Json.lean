import GoCoverage.Decimal.Layout
import GoCoverage.Json.Value
import GoCoverage.Report.Tree

/-! # The report as a JSON text

Every node of the report is a record of its data in a fixed order, its parts included. -/

namespace GoCoverage.Report

open Json (Value)

/-- Rates in the JSON text: a number always shows that it is no integer, digits stand in their
places if the first of them is neither above 10 ^ 15 nor below 10 ^ -5, and what is no number is
null. -/
def jsonRate : Decimal.Layout where
  tie := .even
  positional leading := -5 ≤ leading && leading ≤ 15
  keepsPoint := true
  infinity := "null"
  negativeInfinity := "null"
  notANumber := "null"

/-- A rate as a value. -/
def rateValue (rate : Float) : Value := .number (jsonRate.write rate)

/-- A line as a value. -/
def lineValue (line : Line) : Value :=
  .record [("number", .nat line.number), ("hits", .nat line.hits)]

/-- A line table as a value. -/
def linesValue (lines : Lines) : Value := .list (lines.toList.map lineValue)

/-- A method as a value. -/
def methodValue (method : Method) : Value :=
  .record [
    ("name", .text method.name),
    ("signature", (method.signature.map Value.text).getD .null),
    ("line_rate", rateValue method.lineRate),
    ("lines", linesValue method.lines)]

/-- A class as a value. -/
def classValue (c : Class) : Value :=
  .record [
    ("name", .text c.name),
    ("file_name", .text c.file),
    ("line_rate", rateValue c.lineRate),
    ("methods", .list (c.methods.map methodValue)),
    ("lines", linesValue c.lines)]

/-- A package as a value. -/
def packageValue (package : Package) : Value :=
  .record [
    ("name", .text package.name),
    ("line_rate", rateValue package.lineRate),
    ("classes", .list (package.classes.map classValue))]

/-- The report as a value. -/
def value (report : Report) : Value :=
  .record [
    ("version", .text report.version),
    ("timestamp", .int report.timestamp),
    ("line_rate", rateValue report.lineRate),
    ("branch_rate", rateValue report.branchRate),
    ("lines_covered", .nat report.linesCovered),
    ("lines_valid", .nat report.linesValid),
    ("branches_covered", .nat report.branchesCovered),
    ("branches_valid", .nat report.branchesValid),
    ("complexity", rateValue report.complexity),
    ("sources", .list (report.sources.map Value.text)),
    ("packages", .list (report.packages.map packageValue))]

/-- The report as a JSON text. -/
def toJson (report : Report) : String :=
  String.ofList (report.value.write 0 ++ ['\n'])

end GoCoverage.Report
