import GoCoverage.Proofs.Decimal.Digits
import GoCoverage.Proofs.Report.Alike
import GoCoverage.Proofs.Xml.ReadBack
import GoCoverage.Report.Xml

/-! # The XML document is read back

Whatever characters the texts of a report contain, a plain reader of tags finds in its XML document
the elements of the report, each with its own attributes and in the order of the report.  So two
reports have the same document exactly if they are alike in what it shows: a rate by its text, and
no difference between a signature that is missing and one that is empty. -/

namespace GoCoverage.Report

open Xml (Tag Attribute Element Reads IsName)

/-! ## The elements of a report -/

/-- The element of a line. -/
def lineElement (line : Line) : Element :=
  .node "line" [("number", toString line.number), ("hits", toString line.hits)] []

/-- The element of a line table. -/
def linesElement (lines : Lines) : Element := .node "lines" [] (lines.toList.map lineElement)

/-- The element of a method. -/
def methodElement (method : Method) : Element :=
  .node "method"
    [("name", method.name), ("signature", method.signature.getD ""),
      ("line-rate", rateText method.lineRate), ("branch-rate", "0"), ("complexity", "0")]
    [linesElement method.lines]

/-- The element of a class. -/
def classElement (c : Class) : Element :=
  .node "class"
    [("name", c.name), ("filename", c.file),
      ("line-rate", rateText c.lineRate), ("branch-rate", "0"), ("complexity", "0")]
    [.node "methods" [] (c.methods.map methodElement), linesElement c.lines]

/-- The element of a package. -/
def packageElement (package : Package) : Element :=
  .node "package"
    [("name", package.name),
      ("line-rate", rateText package.lineRate), ("branch-rate", "0"), ("complexity", "0")]
    [.node "classes" [] (package.classes.map classElement)]

/-- The element of a report. -/
def rootElement (report : Report) : Element :=
  .node "coverage"
    [("line-rate", rateText report.lineRate), ("branch-rate", rateText report.branchRate),
      ("version", report.version), ("timestamp", toString report.timestamp),
      ("lines-covered", toString report.linesCovered), ("lines-valid", toString report.linesValid),
      ("branches-covered", toString report.branchesCovered),
      ("branches-valid", toString report.branchesValid),
      ("complexity", rateText report.complexity)]
    [.node "sources" [] (report.sources.map (.leaf "source" [] ·)),
      .node "packages" [] (report.packages.map packageElement)]

/-! ## Elements are read from their tags -/

theorem reads_lines (lines : Lines) : Reads (linesTags lines) [linesElement lines] := by
  refine .element (by decide) (fun _ h => absurd h List.not_mem_nil) (.map ?_)
  intro line _
  have named : ∀ key ∈ ["number", "hits"], IsName key := by decide
  exact .empty (by decide) named

theorem reads_method (method : Method) : Reads (methodTags method) [methodElement method] := by
  have named : ∀ key ∈ ["name", "signature", "line-rate", "branch-rate", "complexity"],
      IsName key := by decide
  exact .element (by decide) named (reads_lines method.lines)

theorem reads_class (c : Class) : Reads (classTags c) [classElement c] := by
  have named : ∀ key ∈ ["name", "filename", "line-rate", "branch-rate", "complexity"],
      IsName key := by decide
  have methods : Reads (Xml.element "methods" [] (c.methods.flatMap methodTags))
      [.node "methods" [] (c.methods.map methodElement)] :=
    .element (by decide) (fun _ h => absurd h List.not_mem_nil)
      (.flatMap fun method _ => reads_method method)
  exact .element (by decide) named (methods.append (reads_lines c.lines))

theorem reads_package (package : Package) :
    Reads (packageTags package) [packageElement package] := by
  have named : ∀ key ∈ ["name", "line-rate", "branch-rate", "complexity"], IsName key := by decide
  refine .element (by decide) named ?_
  refine .element (by decide) (fun _ h => absurd h List.not_mem_nil) ?_
  exact .flatMap fun c _ => reads_class c

theorem reads_root (report : Report) : Reads report.tags [report.rootElement] := by
  have named : ∀ key ∈ ["line-rate", "branch-rate", "version", "timestamp", "lines-covered",
      "lines-valid", "branches-covered", "branches-valid", "complexity"], IsName key := by decide
  have sources : Reads (Xml.element "sources" [] (report.sources.map (Tag.text "source")))
      [.node "sources" [] (report.sources.map (.leaf "source" [] ·))] :=
    .element (by decide) (fun _ h => absurd h List.not_mem_nil)
      (.map fun source _ => .text (by decide))
  have packages : Reads (Xml.element "packages" [] (report.packages.flatMap packageTags))
      [.node "packages" [] (report.packages.map packageElement)] :=
    .element (by decide) (fun _ h => absurd h List.not_mem_nil)
      (.flatMap fun package _ => reads_package package)
  exact .element (by decide) named (sources.append packages)

/-- What stands before the root element says nothing of elements. -/
theorem run_xmlHeader :
    Xml.Reader.start.run xmlHeader.toList = some ⟨.data, ⟨[], [], ['\n', '\n']⟩⟩ := by
  have parts : xmlHeader = "<?" ++ "xml version=\"1.0\" encoding=\"UTF-8\"?" ++ ">\n<!" ++
      "DOCTYPE coverage SYSTEM \"http://cobertura.sourceforge.net/xml/coverage-04.dtd\"" ++
        ">\n" := by
    decide +kernel
  have layout : xmlHeader.toList =
      '<' :: '?' :: ("xml version=\"1.0\" encoding=\"UTF-8\"?".toList ++ '>' :: (['\n'] ++
        '<' :: '!' ::
      ("DOCTYPE coverage SYSTEM \"http://cobertura.sourceforge.net/xml/coverage-04.dtd\"".toList ++
        '>' :: ['\n']))) := by
    rw [parts]
    simp only [String.toList_append, List.append_assoc]
    rfl
  rw [layout, Xml.Reader.start, Xml.Reader.run_declaration (.inl rfl) (by simp),
    Xml.Reader.run_data (by simp), Xml.Reader.run_declaration (.inr rfl) (by simp)]
  rfl

/-! ## Elements that look alike -/

/-- What the document shows of a rate and of a signature. -/
def xmlShown : Shown String where
  rate := rateText
  signature signature := signature.getD ""

theorem lineElement_injective : Function.Injective lineElement := by
  rintro ⟨number, hits⟩ ⟨number', hits'⟩ h
  simp only [lineElement, Element.node.injEq, List.cons.injEq, Prod.mk.injEq, true_and, and_true,
    Decimal.toString_nat_inj] at h
  obtain ⟨rfl, rfl⟩ := h
  rfl

theorem eq_of_linesElement_eq {lines others : Lines}
    (same : linesElement lines = linesElement others) : lines = others := by
  simp only [linesElement, Element.node.injEq, true_and] at same
  exact lines_eq_of_map_eq lineElement_injective same

theorem alike_of_methodElement_eq (method other : Method)
    (same : methodElement method = methodElement other) : method.Alike xmlShown other := by
  simp only [methodElement, Element.node.injEq, List.cons.injEq, Prod.mk.injEq, true_and,
    and_true] at same
  obtain ⟨⟨name, signature, lineRate⟩, lines⟩ := same
  exact { name, signature, lineRate, lines := eq_of_linesElement_eq lines }

theorem alike_of_classElement_eq (c other : Class) (same : classElement c = classElement other) :
    c.Alike xmlShown other := by
  simp only [classElement, Element.node.injEq, List.cons.injEq, Prod.mk.injEq, true_and,
    and_true] at same
  obtain ⟨⟨name, file, lineRate⟩, methods, lines⟩ := same
  exact { name, file, lineRate
          methods := forall₂_of_map_eq alike_of_methodElement_eq methods
          lines := eq_of_linesElement_eq lines }

theorem alike_of_packageElement_eq (package other : Package)
    (same : packageElement package = packageElement other) : package.Alike xmlShown other := by
  simp only [packageElement, Element.node.injEq, List.cons.injEq, Prod.mk.injEq, true_and,
    and_true] at same
  obtain ⟨⟨name, lineRate⟩, classes⟩ := same
  exact { name, lineRate, classes := forall₂_of_map_eq alike_of_classElement_eq classes }

theorem alike_of_rootElement_eq {report other : Report}
    (same : report.rootElement = other.rootElement) : report.Alike xmlShown other := by
  have leaf : Function.Injective (Element.leaf "source" []) := by
    intro source other same
    exact (Element.leaf.inj same).2.2
  simp only [rootElement, Element.node.injEq, List.cons.injEq, Prod.mk.injEq, true_and, and_true,
    Decimal.toString_nat_inj, Decimal.toString_int_inj] at same
  obtain ⟨⟨lineRate, branchRate, version, timestamp, linesCovered, linesValid, branchesCovered,
    branchesValid, complexity⟩, sources, packages⟩ := same
  exact { version, timestamp, lineRate, branchRate, linesCovered, linesValid, branchesCovered,
          branchesValid, complexity
          sources := leaf.list_map sources
          packages := forall₂_of_map_eq alike_of_packageElement_eq packages }

/-! ## The document -/

theorem rateAttributes_eq {lineRate other : Float} (same : rateText lineRate = rateText other) :
    rateAttributes lineRate = rateAttributes other := by
  rw [rateAttributes, rateAttributes, same]

theorem methodTags_eq (method other : Method) (alike : method.Alike xmlShown other) :
    methodTags method = methodTags other := by
  have signature : method.signature.getD "" = other.signature.getD "" := alike.signature
  rw [methodTags, methodTags, alike.name, signature, rateAttributes_eq alike.lineRate, alike.lines]

theorem classTags_eq (c other : Class) (alike : c.Alike xmlShown other) :
    classTags c = classTags other := by
  rw [classTags, classTags, alike.name, alike.file, rateAttributes_eq alike.lineRate,
    List.flatMap_def, List.flatMap_def, map_eq_of_forall₂ methodTags_eq alike.methods, alike.lines]

theorem packageTags_eq (package other : Package) (alike : package.Alike xmlShown other) :
    packageTags package = packageTags other := by
  rw [packageTags, packageTags, alike.name, rateAttributes_eq alike.lineRate,
    List.flatMap_def, List.flatMap_def, map_eq_of_forall₂ classTags_eq alike.classes]

theorem rootAttributes_eq {report other : Report} (alike : report.Alike xmlShown other) :
    report.rootAttributes = other.rootAttributes := by
  have lineRate : rateText report.lineRate = rateText other.lineRate := alike.lineRate
  have branchRate : rateText report.branchRate = rateText other.branchRate := alike.branchRate
  have complexity : rateText report.complexity = rateText other.complexity := alike.complexity
  rw [rootAttributes, rootAttributes, lineRate, branchRate, alike.version, alike.timestamp,
    alike.linesCovered, alike.linesValid, alike.branchesCovered, alike.branchesValid, complexity]

/-- Reports that look alike have the same document. -/
theorem toXml_eq_of_alike {report other : Report} (alike : report.Alike xmlShown other) :
    report.toXml = other.toXml := by
  rw [toXml, toXml, tags, tags, rootAttributes_eq alike, alike.sources,
    List.flatMap_def, List.flatMap_def, map_eq_of_forall₂ packageTags_eq alike.packages]

/-- **The XML document is read back.**  A plain reader of tags finds in it the elements of the
report, whatever its texts are; and it is the same for two reports exactly if they look alike. -/
theorem toXml_read_back (report : Report) :
    Xml.read? report.toXml = some report.rootElement ∧
      ∀ other : Report, report.toXml = other.toXml ↔ report.Alike xmlShown other := by
  have reads : ∀ report : Report, Xml.read? report.toXml = some report.rootElement :=
    fun report => Xml.read?_of_reads run_xmlHeader (by decide) (reads_root report)
  refine ⟨reads report, fun other => ⟨fun same => ?_, toXml_eq_of_alike⟩⟩
  have element : some report.rootElement = some other.rootElement := by
    rw [← reads report, ← reads other, same]
  exact alike_of_rootElement_eq (Option.some.inj element)

end GoCoverage.Report
