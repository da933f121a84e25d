import GoCoverage.Decimal.Layout
import GoCoverage.Report.Tree
import GoCoverage.Xml.Tag

/-! # The report as an XML document

The document has an element for every node of the report, with the node's own data as attributes and
its parts as content.  Profiles say nothing of branches and complexity, so these attributes are zero
below the root. -/

namespace GoCoverage.Report

open Xml (Tag Attribute element)

/-- What stands before the root element. -/
def xmlHeader : String :=
  "<?xml version=\"1.0\" encoding=\"UTF-8\"?>\n" ++
  "<!DOCTYPE coverage SYSTEM \"http://cobertura.sourceforge.net/xml/coverage-04.dtd\">\n"

/-- A rate in the XML document. -/
def rateText (rate : Float) : String := Decimal.Layout.plain.write rate

/-- The rates of a node below the root. -/
def rateAttributes (lineRate : Float) : List Attribute :=
  [("line-rate", rateText lineRate), ("branch-rate", "0"), ("complexity", "0")]

/-- The element for a line. -/
def lineTag (line : Line) : Tag :=
  .empty "line" [("number", toString line.number), ("hits", toString line.hits)]

/-- The element for a line table. -/
def linesTags (lines : Lines) : List Tag := element "lines" [] (lines.toList.map lineTag)

/-- The element for a method.  A method without a signature has an empty one here. -/
def methodTags (method : Method) : List Tag :=
  element "method"
    ([("name", method.name), ("signature", method.signature.getD "")] ++
      rateAttributes method.lineRate)
    (linesTags method.lines)

/-- The element for a class. -/
def classTags (c : Class) : List Tag :=
  element "class" ([("name", c.name), ("filename", c.file)] ++ rateAttributes c.lineRate)
    (element "methods" [] (c.methods.flatMap methodTags) ++ linesTags c.lines)

/-- The element for a package. -/
def packageTags (package : Package) : List Tag :=
  element "package" (("name", package.name) :: rateAttributes package.lineRate)
    (element "classes" [] (package.classes.flatMap classTags))

/-- The attributes of the root element. -/
def rootAttributes (report : Report) : List Attribute :=
  [("line-rate", rateText report.lineRate),
    ("branch-rate", rateText report.branchRate),
    ("version", report.version),
    ("timestamp", toString report.timestamp),
    ("lines-covered", toString report.linesCovered),
    ("lines-valid", toString report.linesValid),
    ("branches-covered", toString report.branchesCovered),
    ("branches-valid", toString report.branchesValid),
    ("complexity", rateText report.complexity)]

/-- The items of the document. -/
def tags (report : Report) : List Tag :=
  element "coverage" report.rootAttributes <|
    element "sources" [] (report.sources.map (Tag.text "source")) ++
      element "packages" [] (report.packages.flatMap packageTags)

/-- The report as an XML document. -/
def toXml (report : Report) : String :=
  xmlHeader ++ String.ofList (Xml.writeTags 0 report.tags)

end GoCoverage.Report
