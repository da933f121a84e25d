import GoCoverage.Proofs.Decimal.Token
import GoCoverage.Proofs.Json.ReadBack
import GoCoverage.Proofs.Report.Alike
import GoCoverage.Report.Json

/-! # The JSON text is read back

Whatever characters the texts of a report contain, its JSON text is read as the data of the report:
every field of every node in its place, every whole number with all its digits, and null where a
signature is missing.  Rates are read as the tokens they are written as, and those that are no
numbers or infinite as null.  So two reports have the same text exactly if they are alike in all but
rates that are written alike. -/

namespace GoCoverage.Report

open Json (Value Datum Writes)

/-! ## The data of a report -/

/-- A rate: its token if it is a finite number, and null otherwise. -/
def rateDatum (rate : Float) : Datum :=
  if rate.isFinite then .number (jsonRate.write rate) else .null

/-- A text that may be missing. -/
def optionalDatum : Option String → Datum
  | none => .null
  | some content => .text content

/-- A line. -/
def lineDatum (line : Line) : Datum :=
  .record [("number", .number (toString line.number)), ("hits", .number (toString line.hits))]

/-- A line table, without a record around its lines. -/
def linesDatum (lines : Lines) : Datum := .list (lines.toList.map lineDatum)

/-- A method. -/
def methodDatum (method : Method) : Datum :=
  .record [
    ("name", .text method.name),
    ("signature", optionalDatum method.signature),
    ("line_rate", rateDatum method.lineRate),
    ("lines", linesDatum method.lines)]

/-- A class. -/
def classDatum (c : Class) : Datum :=
  .record [
    ("name", .text c.name),
    ("file_name", .text c.file),
    ("line_rate", rateDatum c.lineRate),
    ("methods", .list (c.methods.map methodDatum)),
    ("lines", linesDatum c.lines)]

/-- A package. -/
def packageDatum (package : Package) : Datum :=
  .record [
    ("name", .text package.name),
    ("line_rate", rateDatum package.lineRate),
    ("classes", .list (package.classes.map classDatum))]

/-- The report. -/
def datum (report : Report) : Datum :=
  .record [
    ("version", .text report.version),
    ("timestamp", .number (toString report.timestamp)),
    ("line_rate", rateDatum report.lineRate),
    ("branch_rate", rateDatum report.branchRate),
    ("lines_covered", .number (toString report.linesCovered)),
    ("lines_valid", .number (toString report.linesValid)),
    ("branches_covered", .number (toString report.branchesCovered)),
    ("branches_valid", .number (toString report.branchesValid)),
    ("complexity", rateDatum report.complexity),
    ("sources", .list (report.sources.map .text)),
    ("packages", .list (report.packages.map packageDatum))]

/-! ## Data are read from what is written -/

theorem writes_nat (n : Nat) : Writes (.nat n) (.number (toString n)) := by
  refine .number (.unsigned ?_)
  rw [Decimal.toList_toString]
  exact Decimal.isUnsigned_digitsOf n

theorem writes_int (z : Int) : Writes (.int z) (.number (toString z)) := by
  refine .number ?_
  rw [Decimal.toList_toString_int]
  split
  · exact .minus (Decimal.isUnsigned_digitsOf _)
  · exact .unsigned (Decimal.isUnsigned_digitsOf _)

/-- What is no finite number is written as null. -/
theorem jsonRate_write_eq {rate : Float} (notFinite : ¬ rate.isFinite = true) :
    jsonRate.write rate = "null" := by
  rw [Decimal.Layout.write]
  cases parts : Decimal.Binary64.ofFloat rate with
  | finite negative magnitude =>
    exact absurd ((Decimal.isFinite_iff rate).mpr ⟨negative, magnitude, parts⟩) notFinite
  | infinite negative => cases negative <;> rfl
  | notANumber => rfl

theorem writes_rate (rate : Float) : Writes (rateValue rate) (rateDatum rate) := by
  rw [rateDatum]
  split
  · rename_i finite
    exact .number (Decimal.isNumber_write rfl finite)
  · rename_i notFinite
    rw [rateValue, jsonRate_write_eq notFinite]
    exact Writes.null

theorem writes_signature (signature : Option String) :
    Writes ((signature.map Value.text).getD .null) (optionalDatum signature) := by
  cases signature with
  | none => exact .null
  | some content => exact .text content

theorem writes_map {α : Type} {value : α → Value} {datum : α → Datum}
    (writes : ∀ item, Writes (value item) (datum item)) (items : List α) :
    Writes (.list (items.map value)) (.list (items.map datum)) := by
  refine .list ?_
  induction items with
  | nil => exact .nil
  | cons item items ih => exact .cons (writes item) ih

theorem writes_line (line : Line) : Writes (lineValue line) (lineDatum line) :=
  .record (.cons ⟨rfl, writes_nat line.number⟩ (.cons ⟨rfl, writes_nat line.hits⟩ .nil))

theorem writes_lines (lines : Lines) : Writes (linesValue lines) (linesDatum lines) :=
  writes_map writes_line lines.toList

theorem writes_method (method : Method) : Writes (methodValue method) (methodDatum method) :=
  .record <|
    .cons ⟨rfl, .text method.name⟩ <|
    .cons ⟨rfl, writes_signature method.signature⟩ <|
    .cons ⟨rfl, writes_rate method.lineRate⟩ <|
    .cons ⟨rfl, writes_lines method.lines⟩ .nil

theorem writes_class (c : Class) : Writes (classValue c) (classDatum c) :=
  .record <|
    .cons ⟨rfl, .text c.name⟩ <|
    .cons ⟨rfl, .text c.file⟩ <|
    .cons ⟨rfl, writes_rate c.lineRate⟩ <|
    .cons ⟨rfl, writes_map writes_method c.methods⟩ <|
    .cons ⟨rfl, writes_lines c.lines⟩ .nil

theorem writes_package (package : Package) : Writes (packageValue package) (packageDatum package) :=
  .record <|
    .cons ⟨rfl, .text package.name⟩ <|
    .cons ⟨rfl, writes_rate package.lineRate⟩ <|
    .cons ⟨rfl, writes_map writes_class package.classes⟩ .nil

theorem writes_report (report : Report) : Writes report.value report.datum :=
  .record <|
    .cons ⟨rfl, .text report.version⟩ <|
    .cons ⟨rfl, writes_int report.timestamp⟩ <|
    .cons ⟨rfl, writes_rate report.lineRate⟩ <|
    .cons ⟨rfl, writes_rate report.branchRate⟩ <|
    .cons ⟨rfl, writes_nat report.linesCovered⟩ <|
    .cons ⟨rfl, writes_nat report.linesValid⟩ <|
    .cons ⟨rfl, writes_nat report.branchesCovered⟩ <|
    .cons ⟨rfl, writes_nat report.branchesValid⟩ <|
    .cons ⟨rfl, writes_rate report.complexity⟩ <|
    .cons ⟨rfl, writes_map Writes.text report.sources⟩ <|
    .cons ⟨rfl, writes_map writes_package report.packages⟩ .nil

/-! ## Data that look alike -/

/-- What the text shows of a rate and of a signature. -/
def jsonShown : Shown (Option String) where
  rate := jsonRate.write
  signature signature := signature

theorem write_eq_of_rateDatum_eq {rate other : Float} (same : rateDatum rate = rateDatum other) :
    jsonRate.write rate = jsonRate.write other := by
  rw [rateDatum, rateDatum] at same
  split at same <;> split at same
  · exact Datum.number.inj same
  · cases same
  · cases same
  · rename_i notFinite notFinite'
    rw [jsonRate_write_eq notFinite, jsonRate_write_eq notFinite']

theorem eq_of_optionalDatum_eq {signature other : Option String}
    (same : optionalDatum signature = optionalDatum other) : signature = other := by
  cases signature <;> cases other
  · rfl
  · cases same
  · cases same
  · rw [Datum.text.inj same]

theorem lineDatum_injective : Function.Injective lineDatum := by
  rintro ⟨number, hits⟩ ⟨number', hits'⟩ h
  simp only [lineDatum, Datum.record.injEq, List.cons.injEq, Prod.mk.injEq, Datum.number.injEq,
    true_and, and_true, Decimal.toString_nat_inj] at h
  obtain ⟨rfl, rfl⟩ := h
  rfl

theorem eq_of_linesDatum_eq {lines others : Lines} (same : linesDatum lines = linesDatum others) :
    lines = others :=
  lines_eq_of_map_eq lineDatum_injective (Datum.list.inj same)

theorem alike_of_methodDatum_eq (method other : Method)
    (same : methodDatum method = methodDatum other) : method.Alike jsonShown other := by
  simp only [methodDatum, Datum.record.injEq, List.cons.injEq, Prod.mk.injEq, Datum.text.injEq,
    true_and, and_true] at same
  obtain ⟨name, signature, lineRate, lines⟩ := same
  exact { name
          signature := eq_of_optionalDatum_eq signature
          lineRate := write_eq_of_rateDatum_eq lineRate
          lines := eq_of_linesDatum_eq lines }

theorem alike_of_classDatum_eq (c other : Class) (same : classDatum c = classDatum other) :
    c.Alike jsonShown other := by
  simp only [classDatum, Datum.record.injEq, List.cons.injEq, Prod.mk.injEq, Datum.text.injEq,
    Datum.list.injEq, true_and, and_true] at same
  obtain ⟨name, file, lineRate, methods, lines⟩ := same
  exact { name, file
          lineRate := write_eq_of_rateDatum_eq lineRate
          methods := forall₂_of_map_eq alike_of_methodDatum_eq methods
          lines := eq_of_linesDatum_eq lines }

theorem alike_of_packageDatum_eq (package other : Package)
    (same : packageDatum package = packageDatum other) : package.Alike jsonShown other := by
  simp only [packageDatum, Datum.record.injEq, List.cons.injEq, Prod.mk.injEq, Datum.text.injEq,
    Datum.list.injEq, true_and, and_true] at same
  obtain ⟨name, lineRate, classes⟩ := same
  exact { name
          lineRate := write_eq_of_rateDatum_eq lineRate
          classes := forall₂_of_map_eq alike_of_classDatum_eq classes }

theorem alike_of_datum_eq {report other : Report} (same : report.datum = other.datum) :
    report.Alike jsonShown other := by
  have text : Function.Injective Datum.text := fun _ _ => Datum.text.inj
  simp only [datum, Datum.record.injEq, List.cons.injEq, Prod.mk.injEq, Datum.text.injEq,
    Datum.number.injEq, Datum.list.injEq, true_and, and_true, Decimal.toString_nat_inj,
    Decimal.toString_int_inj] at same
  obtain ⟨version, timestamp, lineRate, branchRate, linesCovered, linesValid, branchesCovered,
    branchesValid, complexity, sources, packages⟩ := same
  exact { version, timestamp, linesCovered, linesValid, branchesCovered, branchesValid
          lineRate := write_eq_of_rateDatum_eq lineRate
          branchRate := write_eq_of_rateDatum_eq branchRate
          complexity := write_eq_of_rateDatum_eq complexity
          sources := text.list_map sources
          packages := forall₂_of_map_eq alike_of_packageDatum_eq packages }

/-! ## The text -/

theorem rateValue_eq {rate other : Float} (same : jsonRate.write rate = jsonRate.write other) :
    rateValue rate = rateValue other := by
  rw [rateValue, rateValue, same]

theorem methodValue_eq (method other : Method) (alike : method.Alike jsonShown other) :
    methodValue method = methodValue other := by
  have signature : method.signature = other.signature := alike.signature
  rw [methodValue, methodValue, alike.name, signature, rateValue_eq alike.lineRate, alike.lines]

theorem classValue_eq (c other : Class) (alike : c.Alike jsonShown other) :
    classValue c = classValue other := by
  rw [classValue, classValue, alike.name, alike.file, rateValue_eq alike.lineRate,
    map_eq_of_forall₂ methodValue_eq alike.methods, alike.lines]

theorem packageValue_eq (package other : Package) (alike : package.Alike jsonShown other) :
    packageValue package = packageValue other := by
  rw [packageValue, packageValue, alike.name, rateValue_eq alike.lineRate,
    map_eq_of_forall₂ classValue_eq alike.classes]

/-- Reports that look alike have the same text. -/
theorem toJson_eq_of_alike {report other : Report} (alike : report.Alike jsonShown other) :
    report.toJson = other.toJson := by
  have value : report.value = other.value := by
    rw [Report.value, Report.value, alike.version, alike.timestamp, rateValue_eq alike.lineRate,
      rateValue_eq alike.branchRate, alike.linesCovered, alike.linesValid, alike.branchesCovered,
      alike.branchesValid, rateValue_eq alike.complexity, alike.sources,
      map_eq_of_forall₂ packageValue_eq alike.packages]
  rw [toJson, toJson, value]

/-- **The JSON text is read back.**  Before its last line break it is a JSON text, which is read as
the data of the report, whatever its texts are; and it is the same for two reports exactly if they
look alike. -/
theorem toJson_read_back (report : Report) :
    (∃ text, report.toJson = text ++ "\n" ∧ Json.read? text = some report.datum) ∧
      ∀ other : Report, report.toJson = other.toJson ↔ report.Alike jsonShown other := by
  have reads : ∀ report : Report, ∃ text,
      report.toJson = text ++ "\n" ∧ Json.read? text = some report.datum := by
    intro report
    exact ⟨String.ofList (report.value.write 0), String.ofList_append,
      Json.read?_write (writes_report report)⟩
  refine ⟨reads report, fun other => ⟨fun same => ?_, toJson_eq_of_alike⟩⟩
  obtain ⟨text, isText, read⟩ := reads report
  obtain ⟨text', isText', read'⟩ := reads other
  have sameText : text = text' := by
    have characters := congrArg String.toList (isText.symm.trans (same.trans isText'))
    rw [String.toList_append, String.toList_append] at characters
    exact String.toList_inj.mp (List.append_cancel_right characters)
  rw [sameText, read'] at read
  exact alike_of_datum_eq (Option.some.inj read).symm

end GoCoverage.Report
