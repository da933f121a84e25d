import GoCoverage.Proofs.Conversion.Run
import GoCoverage.Proofs.Report.XmlReading
import GoCoverage.Proofs.Xml.Processed

/-! # What a processor reads of a report

The texts of a report are written into its XML document as they stand, but for the five characters
that have a meaning of their own.  So a document is accepted exactly if it may hold those texts, and
what is read of it is the report with its texts as they are read (`process?_toXml`): a tab or the
end of a line in a name or in a signature is read as a space.  The report itself is read exactly if
its texts have no such characters (`toXml_processed`), and those of a source file may have them
(`signature_over_lines_is_lost`). -/

namespace GoCoverage

open Xml (Tag Attribute IsName isNameChar AllAllowed readValue readContent)

/-! ## Numerals -/

namespace Decimal

open Xml (IsBare)

theorem isNameChar_of_isDigit {c : Char} (h : c.isDigit = true) : isNameChar c = true := by
  simp [isNameChar, Char.isAlphanum, h]

theorem isNameChar_of_mem_inPlaces {layout : Layout} (keepsNone : layout.keepsPoint = false)
    (n : Nat) (exponent : Int) {c : Char}
    (member : c ∈ layout.inPlaces (Layout.digitsOf n) exponent) : isNameChar c = true := by
  have digit : ∀ c ∈ Layout.digitsOf n, isNameChar c = true :=
    fun c member => isNameChar_of_isDigit (isDigit_of_mem_digitsOf member)
  have zero : ∀ {count : Nat} {c : Char}, c ∈ Layout.zeros count → isNameChar c = true := by
    intro count c member
    rw [List.eq_of_mem_replicate member]
    decide
  have mark : isNameChar '.' = true ∧ isNameChar '0' = true := by decide
  rw [Layout.inPlaces, keepsNone] at member
  split at member
  · rcases List.mem_append.mp member with member | member
    · rcases List.mem_append.mp member with member | member
      · exact digit c member
      · exact zero member
    · cases member
  · dsimp only at member
    split at member
    · rcases List.mem_append.mp member with member | member
      · exact digit c (List.mem_of_mem_take member)
      · rcases List.mem_cons.mp member with rfl | member
        · exact mark.1
        · exact digit c (List.mem_of_mem_drop member)
    · rcases List.mem_cons.mp member with rfl | member
      · exact mark.2
      · rcases List.mem_cons.mp member with rfl | member
        · exact mark.1
        · rcases List.mem_append.mp member with member | member
          · exact zero member
          · exact digit c member

theorem isBare_toString_nat (n : Nat) : IsBare (toString n) := by
  intro c member
  rw [toList_toString] at member
  exact isNameChar_of_isDigit (isDigit_of_mem_digitsOf member)

theorem isBare_toString_int (z : Int) : IsBare (toString z) := by
  intro c member
  rw [toList_toString_int] at member
  rcases List.mem_append.mp member with member | member
  · split at member
    · rw [List.mem_singleton.mp member]
      decide
    · cases member
  · exact isNameChar_of_isDigit (isDigit_of_mem_digitsOf member)

end Decimal

theorem Report.isBare_rateText (rate : Float) : Xml.IsBare (rateText rate) := by
  rw [rateText, Decimal.Layout.write]
  cases Decimal.Binary64.ofFloat rate with
  | finite negative magnitude =>
    intro c member
    rw [Decimal.Layout.binary64, String.toList_ofList] at member
    rcases List.mem_append.mp member with member | member
    · split at member
      · rw [List.mem_singleton.mp member]
        decide
      · cases member
    · exact Decimal.isNameChar_of_mem_inPlaces rfl _ _ member
  | infinite negative => cases negative <;> decide
  | notANumber => decide

namespace Report

open Xml

/-! ## Reports that are read -/

/-- A method as it is read. -/
def Method.asRead (method : Method) : Method :=
  { method with
    name := readValue method.name
    signature := method.signature.map readValue }

/-- A class as it is read. -/
def Class.asRead (c : Class) : Class :=
  { c with
    name := readValue c.name
    file := readValue c.file
    methods := c.methods.map Method.asRead }

/-- A package as it is read. -/
def Package.asRead (package : Package) : Package :=
  { package with
    name := readValue package.name
    classes := package.classes.map Class.asRead }

/-- The report that is read from a document. -/
def asRead (report : Report) : Report :=
  { report with
    version := readValue report.version
    sources := report.sources.map readContent
    packages := report.packages.map Package.asRead }

/-! ## Their items -/

/-- Items with their texts as they are read. -/
abbrev readTags (tags : List Tag) : List Tag := tags.map (·.mapTexts readValue readContent)

theorem readTags_flatMap {α : Type} {tags : α → List Tag} {asRead : α → α}
    (h : ∀ item, readTags (tags item) = tags (asRead item)) (items : List α) :
    readTags (items.flatMap tags) = (items.map asRead).flatMap tags := by
  rw [readTags, List.map_flatMap, List.flatMap_map]
  exact List.flatMap_congr fun item _ => h item

theorem readValue_rateAttributes (rate : Float) :
    (rateAttributes rate).map (fun a => (a.1, readValue a.2)) = rateAttributes rate := by
  have zero : IsBare "0" := by decide
  simp only [rateAttributes, List.map_cons, List.map_nil, (isBare_rateText rate).readValue_eq,
    zero.readValue_eq]

theorem readTags_lines (lines : Lines) : readTags (linesTags lines) = linesTags lines := by
  rw [linesTags, readTags, map_mapTexts_element, List.map_map]
  refine congrArg (element "lines" []) (List.map_congr_left fun line _ => ?_)
  simp only [Function.comp_apply, lineTag, Tag.mapTexts, List.map_cons, List.map_nil,
    (Decimal.isBare_toString_nat _).readValue_eq]

theorem Method.getD_signature_asRead (method : Method) :
    method.asRead.signature.getD "" = readValue (method.signature.getD "") := by
  show (method.signature.map readValue).getD "" = _
  cases method.signature <;> rfl

theorem readTags_method (method : Method) :
    readTags (methodTags method) = methodTags method.asRead := by
  have values : ([("name", method.name), ("signature", method.signature.getD "")] ++
      rateAttributes method.lineRate).map (fun a => (a.1, readValue a.2)) =
        [("name", method.asRead.name), ("signature", method.asRead.signature.getD "")] ++
          rateAttributes method.asRead.lineRate := by
    rw [List.map_append, readValue_rateAttributes, method.getD_signature_asRead]
    rfl
  rw [methodTags, readTags, map_mapTexts_element, values, ← readTags, readTags_lines]
  rfl

theorem readTags_class (c : Class) : readTags (classTags c) = classTags c.asRead := by
  have values : ([("name", c.name), ("filename", c.file)] ++ rateAttributes c.lineRate).map
      (fun a => (a.1, readValue a.2)) =
        [("name", c.asRead.name), ("filename", c.asRead.file)] ++
          rateAttributes c.asRead.lineRate := by
    rw [List.map_append, readValue_rateAttributes]
    rfl
  have methods : readTags (element "methods" [] (c.methods.flatMap methodTags)) =
      element "methods" [] (c.asRead.methods.flatMap methodTags) := by
    rw [readTags, map_mapTexts_element, ← readTags, readTags_flatMap readTags_method]
    rfl
  rw [classTags, readTags, map_mapTexts_element, values, List.map_append, ← readTags, ← readTags,
    methods, readTags_lines]
  rfl

theorem readTags_package (package : Package) :
    readTags (packageTags package) = packageTags package.asRead := by
  have values : (("name", package.name) :: rateAttributes package.lineRate).map
      (fun a => (a.1, readValue a.2)) =
        ("name", package.asRead.name) :: rateAttributes package.asRead.lineRate := by
    rw [List.map_cons, readValue_rateAttributes]
    rfl
  rw [packageTags, readTags, map_mapTexts_element, values, map_mapTexts_element, ← readTags,
    readTags_flatMap readTags_class]
  rfl

/-- The items of a report are read as those of the report that is read. -/
theorem readTags_tags (report : Report) : readTags report.tags = report.asRead.tags := by
  have values : report.rootAttributes.map (fun a => (a.1, readValue a.2)) =
      report.asRead.rootAttributes := by
    simp only [rootAttributes, asRead, List.map_cons, List.map_nil,
      (isBare_rateText _).readValue_eq, (Decimal.isBare_toString_nat _).readValue_eq,
      (Decimal.isBare_toString_int _).readValue_eq]
  have sources : readTags (report.sources.map (Tag.text "source")) =
      report.asRead.sources.map (Tag.text "source") := by
    simp only [readTags, asRead, List.map_map]
    rfl
  rw [tags, readTags, map_mapTexts_element, values, List.map_append, map_mapTexts_element,
    map_mapTexts_element, ← readTags, ← readTags, sources, readTags_flatMap readTags_package]
  rfl

theorem isNamed_lines (lines : Lines) : ∀ tag ∈ linesTags lines, tag.IsNamed := by
  have named : ∀ key ∈ ["number", "hits"], IsName key := by decide
  refine isNamed_element (by decide) (fun _ h => absurd h List.not_mem_nil) ?_
  exact List.forall_mem_map.mpr fun line _ => ⟨by decide, named⟩

theorem isNamed_method (method : Method) : ∀ tag ∈ methodTags method, tag.IsNamed := by
  have named : ∀ key ∈ ["name", "signature", "line-rate", "branch-rate", "complexity"],
      IsName key := by decide
  exact isNamed_element (by decide) named (isNamed_lines method.lines)

theorem isNamed_class (c : Class) : ∀ tag ∈ classTags c, tag.IsNamed := by
  have named : ∀ key ∈ ["name", "filename", "line-rate", "branch-rate", "complexity"],
      IsName key := by decide
  have methods : ∀ tag ∈ element "methods" [] (c.methods.flatMap methodTags), tag.IsNamed :=
    isNamed_element (by decide) (fun _ h => absurd h List.not_mem_nil)
      (List.forall_mem_flatMap.mpr fun method _ => isNamed_method method)
  exact isNamed_element (by decide) named
    (List.forall_mem_append.mpr ⟨methods, isNamed_lines c.lines⟩)

theorem isNamed_package (package : Package) : ∀ tag ∈ packageTags package, tag.IsNamed := by
  have named : ∀ key ∈ ["name", "line-rate", "branch-rate", "complexity"], IsName key := by decide
  refine isNamed_element (by decide) named ?_
  refine isNamed_element (by decide) (fun _ h => absurd h List.not_mem_nil) ?_
  exact List.forall_mem_flatMap.mpr fun c _ => isNamed_class c

theorem isNamed_tags (report : Report) : ∀ tag ∈ report.tags, tag.IsNamed := by
  have named : ∀ key ∈ report.rootAttributes.map (·.1), IsName key := by
    simp only [rootAttributes, List.map_cons, List.map_nil]
    decide
  have source : IsName "source" := by decide
  have sources : ∀ tag ∈ element "sources" [] (report.sources.map (Tag.text "source")),
      tag.IsNamed :=
    isNamed_element (by decide) (fun _ h => absurd h List.not_mem_nil)
      (List.forall_mem_map.mpr fun _ _ => source)
  have packages : ∀ tag ∈ element "packages" [] (report.packages.flatMap packageTags),
      tag.IsNamed :=
    isNamed_element (by decide) (fun _ h => absurd h List.not_mem_nil)
      (List.forall_mem_flatMap.mpr fun package _ => isNamed_package package)
  rw [tags]
  exact isNamed_element (by decide) named (List.forall_mem_append.mpr ⟨sources, packages⟩)

/-! ## Their texts -/

/-- The texts of a method that are no numerals. -/
def Method.texts (method : Method) : List String := [method.name, method.signature.getD ""]

/-- The texts of a class and its methods that are no numerals. -/
def Class.texts (c : Class) : List String := c.name :: c.file :: c.methods.flatMap Method.texts

/-- The texts of a package and its classes that are no numerals. -/
def Package.texts (package : Package) : List String :=
  package.name :: package.classes.flatMap Class.texts

/-- The texts of a report that are values of attributes and no numerals. -/
def texts (report : Report) : List String := report.version :: report.packages.flatMap Package.texts

section Texts

variable {P : String → Prop} (bare : ∀ text, IsBare text → P text)

include bare

theorem forall_texts_lines (lines : Lines) :
    ∀ tag ∈ linesTags lines, ∀ text ∈ tag.texts, P text := by
  rw [linesTags, forall_texts_element]
  refine ⟨List.forall_mem_nil _, List.forall_mem_map.mpr fun line _ => ?_⟩
  have number := bare _ (Decimal.isBare_toString_nat line.number)
  have hits := bare _ (Decimal.isBare_toString_nat line.hits)
  simp only [lineTag, Tag.texts, List.map_cons, List.map_nil, List.forall_mem_cons]
  exact ⟨number, hits, List.forall_mem_nil _⟩

theorem forall_texts_rates (rate : Float) :
    ∀ text ∈ (rateAttributes rate).map (·.2), P text := by
  have zero := bare "0" (by decide)
  simp only [rateAttributes, List.map_cons, List.map_nil, List.forall_mem_cons]
  exact ⟨bare _ (isBare_rateText rate), zero, zero, List.forall_mem_nil _⟩

theorem forall_texts_method (method : Method) :
    (∀ tag ∈ methodTags method, ∀ text ∈ tag.texts, P text) ↔ ∀ text ∈ method.texts, P text := by
  rw [methodTags, forall_texts_element, and_iff_left (forall_texts_lines bare method.lines),
    List.map_append, List.forall_mem_append, and_iff_left (forall_texts_rates bare _)]
  rfl

theorem forall_texts_class (c : Class) :
    (∀ tag ∈ classTags c, ∀ text ∈ tag.texts, P text) ↔ ∀ text ∈ c.texts, P text := by
  rw [classTags, forall_texts_element, List.map_append, List.forall_mem_append,
    and_iff_left (forall_texts_rates bare _), List.forall_mem_append,
    forall_texts_flatMap (forall_texts_method bare),
    and_iff_left (forall_texts_lines bare c.lines), Class.texts, List.forall_mem_cons,
    List.forall_mem_cons, List.map_cons, List.forall_mem_cons, List.map_singleton,
    List.forall_mem_singleton, and_assoc]

theorem forall_texts_package (package : Package) :
    (∀ tag ∈ packageTags package, ∀ text ∈ tag.texts, P text) ↔
      ∀ text ∈ package.texts, P text := by
  rw [packageTags, forall_texts_element, List.map_cons, List.forall_mem_cons,
    and_iff_left (forall_texts_rates bare _), forall_texts_flatMap (forall_texts_class bare),
    Package.texts, List.forall_mem_cons]

/-- The texts of a document are those of the report, and numerals. -/
theorem forall_texts_tags (report : Report) :
    (∀ tag ∈ report.tags, ∀ text ∈ tag.texts, P text) ↔
      (∀ text ∈ report.texts, P text) ∧ ∀ source ∈ report.sources, P source := by
  have numerals : (∀ text ∈ report.rootAttributes.map (·.2), P text) ↔ P report.version := by
    simp only [rootAttributes, List.map_cons, List.map_nil, List.forall_mem_cons,
      bare _ (isBare_rateText _), bare _ (Decimal.isBare_toString_nat _),
      bare _ (Decimal.isBare_toString_int _), List.not_mem_nil, false_imp_iff, implies_true,
      and_true, true_and]
  have none : ∀ text ∈ ([] : List Attribute).map (·.2), P text :=
    List.forall_mem_nil _
  have sources : (∀ tag ∈ element "sources" [] (report.sources.map (Tag.text "source")),
      ∀ text ∈ tag.texts, P text) ↔ ∀ source ∈ report.sources, P source := by
    rw [forall_texts_element, and_iff_right none]
    simp only [List.forall_mem_map, Tag.texts, List.forall_mem_singleton]
  rw [tags, forall_texts_element, numerals, List.forall_mem_append, sources,
    forall_texts_flatMap (forall_texts_package bare), texts, List.forall_mem_cons, and_assoc,
    and_comm (b := ∀ source ∈ report.sources, P source)]

end Texts

/-! ## Reports that are read as they are -/

theorem Method.alike_asRead_iff (method : Method) :
    method.asRead.Alike xmlShown method ↔ ∀ text ∈ method.texts, readValue text = text := by
  rw [Method.texts, List.forall_mem_cons, List.forall_mem_singleton, ← method.getD_signature_asRead]
  exact ⟨fun alike => ⟨alike.name, alike.signature⟩,
    fun ⟨name, signature⟩ => ⟨name, signature, rfl, rfl⟩⟩

/-- Lists are read as they are if each of their items is. -/
theorem forall₂_map_self_iff {α : Type} {alike : α → α → Prop} {asRead : α → α} {items : List α} :
    List.Forall₂ alike (items.map asRead) items ↔ ∀ item ∈ items, alike (asRead item) item := by
  rw [List.forall₂_map_left_iff, List.forall₂_same]

theorem Class.alike_asRead_iff (c : Class) :
    c.asRead.Alike xmlShown c ↔ ∀ text ∈ c.texts, readValue text = text := by
  have methods : List.Forall₂ (Method.Alike xmlShown) c.asRead.methods c.methods ↔
      ∀ text ∈ c.methods.flatMap Method.texts, readValue text = text := by
    simp only [List.forall_mem_flatMap, ← Method.alike_asRead_iff]
    exact forall₂_map_self_iff
  rw [Class.texts, List.forall_mem_cons, List.forall_mem_cons, ← methods]
  exact ⟨fun alike => ⟨alike.name, alike.file, alike.methods⟩,
    fun ⟨name, file, methods⟩ => ⟨name, file, rfl, methods, rfl⟩⟩

theorem Package.alike_asRead_iff (package : Package) :
    package.asRead.Alike xmlShown package ↔ ∀ text ∈ package.texts, readValue text = text := by
  have classes : List.Forall₂ (Class.Alike xmlShown) package.asRead.classes package.classes ↔
      ∀ text ∈ package.classes.flatMap Class.texts, readValue text = text := by
    simp only [List.forall_mem_flatMap, ← Class.alike_asRead_iff]
    exact forall₂_map_self_iff
  rw [Package.texts, List.forall_mem_cons, ← classes]
  exact ⟨fun alike => ⟨alike.name, alike.classes⟩, fun ⟨name, classes⟩ => ⟨name, rfl, classes⟩⟩

/-- A report is read as it is exactly if its texts are. -/
theorem alike_asRead_iff (report : Report) :
    report.asRead.Alike xmlShown report ↔
      (∀ text ∈ report.texts, readValue text = text) ∧
        ∀ source ∈ report.sources, readContent source = source := by
  have packages : List.Forall₂ (Package.Alike xmlShown) report.asRead.packages report.packages ↔
      ∀ text ∈ report.packages.flatMap Package.texts, readValue text = text := by
    simp only [List.forall_mem_flatMap, ← Package.alike_asRead_iff]
    exact forall₂_map_self_iff
  have sources : report.asRead.sources = report.sources ↔
      ∀ source ∈ report.sources, readContent source = source := by
    rw [← List.forall₂_eq_eq_eq]
    exact forall₂_map_self_iff
  rw [texts, List.forall_mem_cons, ← packages, ← sources, and_assoc]
  constructor
  · intro alike
    exact ⟨alike.version, alike.packages, alike.sources⟩
  · rintro ⟨version, packages, sources⟩
    exact { version, sources, packages, timestamp := rfl, lineRate := rfl, branchRate := rfl
            linesCovered := rfl, linesValid := rfl, branchesCovered := rfl, branchesValid := rfl
            complexity := rfl }

theorem read?_toXml (report : Report) : read? report.toXml = some report.rootElement :=
  read?_of_reads run_xmlHeader (by decide) (reads_root report)

/-- Reports that look alike have the same elements. -/
theorem rootElement_eq_of_alike {report other : Report} (alike : report.Alike xmlShown other) :
    report.rootElement = other.rootElement := by
  rw [← Option.some_inj, ← read?_toXml, ← read?_toXml, toXml_eq_of_alike alike]

/-! ## The document -/

/-- A document may hold the texts of the report. -/
def IsAcceptable (report : Report) : Prop :=
  (∀ text ∈ report.texts, AllAllowed text.toList) ∧
    ∀ source ∈ report.sources, AllAllowed source.toList

instance (report : Report) : Decidable report.IsAcceptable :=
  inferInstanceAs (Decidable ((∀ text ∈ report.texts, AllAllowed text.toList) ∧
    ∀ source ∈ report.sources, AllAllowed source.toList))

/-- What stands before the root element is accepted, and read as it is. -/
theorem xmlHeader_kept :
    AllAllowed xmlHeader.toList ∧ ∀ rest, prepare .content (xmlHeader.toList ++ rest) =
      xmlHeader.toList ++ prepare .content rest := by
  obtain ⟨first, second, lines, allowed, allowed', fixed, fixed'⟩ : ∃ first second : String,
      xmlHeader.toList = first.toList ++ second.toList ∧
        AllAllowed first.toList ∧ AllAllowed second.toList ∧
        isFixed .content first.toList = true ∧
        isFixed .content second.toList = true :=
    ⟨_, _, String.toList_append, by decide +kernel, by decide +kernel, by decide +kernel,
      by decide +kernel⟩
  rw [lines]
  refine ⟨allAllowed_append.mpr ⟨allowed, allowed'⟩, fun rest => ?_⟩
  rw [List.append_assoc, respells_prepare.pass_fixed fixed, respells_prepare.pass_fixed fixed',
    List.append_assoc]

/-- A document that is accepted is read as the report with its texts as they are read. -/
theorem process?_toXml (report : Report) :
    process? report.toXml =
      if report.IsAcceptable then some report.asRead.rootElement else none := by
  obtain ⟨accepted, refused⟩ :=
    process?_writeTags xmlHeader_kept.2 xmlHeader_kept.1 (isNamed_tags report)
  rw [forall_texts_tags fun text bare => bare.allAllowed] at accepted refused
  split
  · rename_i acceptable
    rw [toXml, accepted acceptable]
    show read? (xmlHeader ++ String.ofList (writeTags 0 (readTags report.tags))) = _
    rw [readTags_tags]
    exact read?_toXml report.asRead
  · rename_i unacceptable
    exact refused unacceptable

/-- **A document is read back exactly if a processor keeps the characters of its texts.**  A
document is accepted exactly if it may hold the texts of the report.  Then what is read of a value
has spaces for its tabs and line ends, and what is read of a source has one line break for each of
its line ends.  So the report itself is read exactly if no value has a tab or ends a line, and no
source has a carriage return. -/
theorem toXml_processed (report : Report) :
    process? report.toXml =
        (if report.IsAcceptable then some report.asRead.rootElement else none) ∧
      (process? report.toXml = some report.rootElement ↔
        report.IsAcceptable ∧
          (∀ text ∈ report.texts, ∀ c ∈ text.toList, c ≠ '\t' ∧ c ≠ '\n' ∧ c ≠ '\r') ∧
          ∀ source ∈ report.sources, '\r' ∉ source.toList) := by
  have same : report.asRead.rootElement = report.rootElement ↔
      (∀ text ∈ report.texts, ∀ c ∈ text.toList, c ≠ '\t' ∧ c ≠ '\n' ∧ c ≠ '\r') ∧
        ∀ source ∈ report.sources, '\r' ∉ source.toList := by
    simp only [← readValue_eq_self_iff, ← readContent_eq_self_iff, ← alike_asRead_iff]
    exact ⟨alike_of_rootElement_eq, rootElement_eq_of_alike⟩
  refine ⟨process?_toXml report, ?_⟩
  rw [process?_toXml, ← same]
  split
  · rename_i acceptable
    rw [Option.some_inj, and_iff_right acceptable]
  · rename_i unacceptable
    exact iff_of_false nofun fun h => unacceptable h.1

/-! ## Blanks that are lost -/

/-- A file with a signature of two lines, and one with a control character in a comment. -/
def blankFiles : Files.Snapshot where
  places := []
  contents := [("/m/a.go", .ok (bytesOf "func A(a int,\n\tb int) {}")),
    ("/m/b/b.go", .ok (bytesOf "func B(/*\x01*/) {}"))]
  listings := [("/m/", .ok ["a.go"]), ("/m/b", .ok ["b.go"])]

/-- Nothing is left out. -/
def blankConversion : Conversion :=
  smallModule.conversion blankFiles.files ⟨none, none, none, none, false⟩ .byType 0

/-- The signatures in a report. -/
def signatures (report : Report) : List (Option String) :=
  report.packages.flatMap fun package =>
    package.classes.flatMap fun c => c.methods.map (·.signature)

/-- **A signature that goes over two lines is read as another one**, and a document that holds a
control character is not accepted. -/
theorem signature_over_lines_is_lost :
    (∃ report : Report, (blankConversion.convert
        [⟨"m/a.go", .set, [⟨⟨⟨1, 1⟩, ⟨2, 11⟩⟩, 1, 1⟩]⟩]).2 = .ok report ∧
      report.signatures = [some "(a int,\n\tb int)"] ∧
      ∃ read : Report, process? report.toXml = some read.rootElement ∧
        read.signatures = [some "(a int,  b int)"]) ∧
      ∃ report : Report, (blankConversion.convert
          [⟨"m/b/b.go", .set, [⟨⟨⟨1, 1⟩, ⟨1, 18⟩⟩, 1, 1⟩]⟩]).2 = .ok report ∧
        process? report.toXml = none := by
  constructor
  · obtain ⟨report, converted, known⟩ : ∃ report : Report, (blankConversion.convert
          [⟨"m/a.go", .set, [⟨⟨⟨1, 1⟩, ⟨2, 11⟩⟩, 1, 1⟩]⟩]).2 = .ok report ∧
        (report.signatures, report.asRead.signatures, decide report.IsAcceptable) =
          ([some "(a int,\n\tb int)"], [some "(a int,  b int)"], true) :=
      exists_eq_ok_of_map (by decide +kernel)
    simp only [Prod.mk.injEq, decide_eq_true_eq] at known
    obtain ⟨written, read, acceptable⟩ := known
    refine ⟨report, converted, written, report.asRead, ?_, read⟩
    rw [process?_toXml, if_pos acceptable]
  · obtain ⟨report, converted, known⟩ : ∃ report : Report, (blankConversion.convert
          [⟨"m/b/b.go", .set, [⟨⟨⟨1, 1⟩, ⟨1, 18⟩⟩, 1, 1⟩]⟩]).2 = .ok report ∧
        decide report.IsAcceptable = false :=
      exists_eq_ok_of_map (by decide +kernel)
    refine ⟨report, converted, ?_⟩
    rw [process?_toXml, if_neg (of_decide_eq_false known)]

end Report

end GoCoverage
