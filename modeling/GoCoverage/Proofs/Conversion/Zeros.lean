import GoCoverage.Proofs.Conversion.Found
import GoCoverage.Proofs.Conversion.Order
import GoCoverage.Proofs.Lines.Zeros

/-! # Rates and zeros

A rate depends on which lines were executed and not on how often.  Two reports that differ in their
hits alone, and in no line that is executed in one of them only, are the same in all else
(`Report.SameZeros`).  Every step of a conversion keeps reports so: tables are joined and lines are
counted alike, and what is looked up is looked up by name.  So profiles that were recorded in
different modes, or in runs of different length through the same lines, are converted to reports
with the same rates and totals (`Conversion.convert_sameZeros`).  Nothing is asked of the order of
the blocks, and nothing of where the files are found. -/

namespace GoCoverage

open Profile (Block)
open Report (Grouping)

/-! ## Nodes of a report -/

namespace Report

/-- Two methods differ in their hits at most, and have the same lines executed. -/
structure Method.SameZeros (method other : Method) : Prop where
  name : method.name = other.name
  signature : method.signature = other.signature
  lineRate : method.lineRate = other.lineRate
  lines : method.lines.SameZeros other.lines

/-- Two classes differ in their hits at most, and have the same lines executed. -/
structure Class.SameZeros (c other : Class) : Prop where
  name : c.name = other.name
  file : c.file = other.file
  lineRate : c.lineRate = other.lineRate
  methods : List.Forall₂ Method.SameZeros c.methods other.methods
  lines : c.lines.SameZeros other.lines

/-- Two packages differ in their hits at most, and have the same lines executed. -/
structure Package.SameZeros (package other : Package) : Prop where
  name : package.name = other.name
  lineRate : package.lineRate = other.lineRate
  classes : List.Forall₂ Class.SameZeros package.classes other.classes

/-- Two reports differ in their hits at most, and have the same lines executed. -/
structure SameZeros (report other : Report) : Prop where
  linesValid : report.linesValid = other.linesValid
  linesCovered : report.linesCovered = other.linesCovered
  lineRate : report.lineRate = other.lineRate
  sources : report.sources = other.sources
  /-- All else but the packages. -/
  others : { report with packages := [] } = { other with packages := [] }
  packages : List.Forall₂ Package.SameZeros report.packages other.packages

/-! ## Methods and classes -/

section Classes

variable {method method' m m' : Method} {c c' other other' : Class}

theorem Method.SameZeros.merge (h : method.SameZeros method') (h' : m.SameZeros m') :
    (method.merge m).SameZeros (method'.merge m') :=
  ⟨h.name, h.signature, h.lineRate, h.lines.merge h'.lines⟩

theorem Method.SameZeros.refresh (h : method.SameZeros method') :
    method.refresh.SameZeros method'.refresh where
  name := h.name
  signature := h.signature
  lineRate := by rw [Method.refresh, Method.refresh, h.lines.covered_eq, h.lines.size_eq]
  lines := h.lines

theorem Class.SameZeros.empty (name file : String) :
    (Class.empty name file).SameZeros (.empty name file) :=
  ⟨rfl, rfl, rfl, .nil, .empty⟩

theorem Class.forall₂_mergeMethods {methods methods' others others' : List Method}
    (h : List.Forall₂ Method.SameZeros methods methods')
    (h' : List.Forall₂ Method.SameZeros others others') :
    List.Forall₂ Method.SameZeros (mergeMethods methods others)
      (mergeMethods methods' others') := by
  induction h generalizing others others' with
  | nil => cases h' <;> exact .nil
  | cons first rest ih =>
    cases h' with
    | nil => exact .cons first rest
    | cons first' rest' => exact .cons (first.merge first') (ih rest')

theorem Class.SameZeros.merge (h : c.SameZeros c') (h' : other.SameZeros other') :
    (c.merge other).SameZeros (c'.merge other') := by
  obtain ⟨_, _, _, methods, _⟩ := c
  obtain ⟨_, _, _, methods', _⟩ := c'
  obtain ⟨name, file, lineRate, same, lines⟩ := h
  -- a class without methods takes those of the other run, and so does its counterpart
  cases same with
  | nil => exact ⟨name, file, lineRate, h'.methods, lines⟩
  | cons first rest =>
    exact ⟨name, file, lineRate, forall₂_mergeMethods (.cons first rest) h'.methods, lines⟩

/-- Bringing two classes up to date looks at their methods only. -/
theorem Class.SameZeros.refresh (h : c.SameZeros c') : c.refresh.SameZeros c'.refresh := by
  have methods : List.Forall₂ Method.SameZeros (c.methods.map Method.refresh)
      (c'.methods.map Method.refresh) :=
    List.rel_map (fun _ _ same => same.refresh) h.methods
  have lines : (linesOfMethods (c.methods.map Method.refresh)).SameZeros
      (linesOfMethods (c'.methods.map Method.refresh)) :=
    List.rel_foldl (fun _ _ joined _ _ same => joined.merge same.lines) Lines.SameZeros.empty
      methods
  refine ⟨h.name, h.file, ?_, methods, lines⟩
  show rate _ _ = rate _ _
  rw [lines.covered_eq, lines.size_eq]

end Classes

/-! ## The classes of a file -/

/-- Tables that list the same lines as executed make the same classes but for the hits. -/
theorem forall₂_classesOf (file : String) (grouping : Grouping)
    (declarations : List Go.Declaration) {tables others : List Lines}
    (h : List.Forall₂ Lines.SameZeros tables others) :
    List.Forall₂ Class.SameZeros (classesOf file grouping (declarations.zip tables))
      (classesOf file grouping (declarations.zip others)) := by
  have paired : List.Forall₂
      (fun given other : Go.Declaration × Lines => given.1 = other.1 ∧ given.2.SameZeros other.2)
      (declarations.zip tables) (declarations.zip others) := by
    induction h generalizing declarations with
    | nil => simp
    | cons first rest ih =>
      cases declarations with
      | nil => exact .nil
      | cons declaration declarations => exact .cons ⟨rfl, first⟩ (ih declarations)
  refine List.rel_foldl ?_ .nil paired
  rintro classes classes' known ⟨declaration, lines⟩ ⟨_, lines'⟩ ⟨rfl, same⟩
  have method : (methodOf declaration lines).SameZeros (methodOf declaration lines') :=
    ⟨rfl, rfl, rfl, same⟩
  have added : ∀ c c' : Class, c.SameZeros c' →
      (c.addMethod (methodOf declaration lines)).SameZeros
        (c'.addMethod (methodOf declaration lines')) := fun c c' h =>
    ⟨h.name, h.file, h.lineRate, List.rel_append h.methods (.cons method .nil), h.lines⟩
  exact forall₂_changeOrAdd (fun c c' h => by rw [h.name]) (added _ _ (.empty _ _)) added known

/-! ## Packages -/

namespace Package.SameZeros

variable {package package' : Package}

theorem empty (name : String) : (Package.empty name).SameZeros (.empty name) := ⟨rfl, rfl, .nil⟩

theorem linesValid_eq (h : package.SameZeros package') :
    package.linesValid = package'.linesValid :=
  sum_eq_of_forall₂ (h.classes.imp fun _ _ same => same.lines.size_eq)

theorem linesCovered_eq (h : package.SameZeros package') :
    package.linesCovered = package'.linesCovered :=
  sum_eq_of_forall₂ (h.classes.imp fun _ _ same => same.lines.covered_eq)

theorem refresh (h : package.SameZeros package') : package.refresh.SameZeros package'.refresh where
  name := h.name
  lineRate := by rw [Package.refresh, Package.refresh, h.linesValid_eq, h.linesCovered_eq]
  classes := h.classes

theorem addClasses (h : package.SameZeros package') {classes classes' : List Class}
    (same : List.Forall₂ Class.SameZeros classes classes') :
    (package.addClasses classes).SameZeros (package'.addClasses classes') := by
  refine refresh (List.rel_foldl ?_ h same)
  intro package package' known c c' h
  have joined : ∀ d d' : Class, d.SameZeros d' →
      (d.merge c).refresh.SameZeros (d'.merge c').refresh := fun _ _ h' => (h'.merge h).refresh
  refine ⟨known.name, known.lineRate, ?_⟩
  dsimp only [Package.changeClass]
  rw [h.name, h.file]
  refine forall₂_changeOrAdd ?_ ?_ joined known.classes
  · intro d d' h'
    rw [h'.name, h'.file]
  · exact joined _ _ (.empty c'.name c'.file)

end Package.SameZeros

/-! ## Reports -/

namespace SameZeros

variable {report report' : Report}

theorem of_others (others : { report with packages := [] } = { report' with packages := [] })
    (packages : List.Forall₂ Package.SameZeros report.packages report'.packages) :
    report.SameZeros report' where
  linesValid := (congrArg Report.linesValid others :)
  linesCovered := (congrArg Report.linesCovered others :)
  lineRate := (congrArg Report.lineRate others :)
  sources := (congrArg Report.sources others :)
  others := others
  packages := packages

theorem empty (timestamp : Int) : (Report.empty timestamp).SameZeros (.empty timestamp) :=
  .of_others rfl .nil

theorem addSource (h : report.SameZeros report') (directory : String) :
    (report.addSource directory).SameZeros (report'.addSource directory) := by
  rw [Report.addSource, Report.addSource, h.sources]
  split
  · exact h
  · exact .of_others (congrArg (fun r : Report =>
      { r with sources := report'.sources ++ [directory] }) h.others) h.packages

theorem changePackage (h : report.SameZeros report') (name : String)
    {change change' : Package → Package}
    (same : ∀ p p', p.SameZeros p' → (change p).SameZeros (change' p')) :
    (report.changePackage name change).SameZeros (report'.changePackage name change') :=
  .of_others h.others <|
    forall₂_changeOrAdd (fun p p' h' => by rw [h'.name]) (same _ _ (.empty name)) same h.packages

theorem countValid_eq (h : report.SameZeros report') : report.countValid = report'.countValid :=
  sum_eq_of_forall₂ (h.packages.imp fun _ _ same => same.linesValid_eq)

theorem countCovered_eq (h : report.SameZeros report') :
    report.countCovered = report'.countCovered :=
  sum_eq_of_forall₂ (h.packages.imp fun _ _ same => same.linesCovered_eq)

theorem withTotals (h : report.SameZeros report') :
    report.withTotals.SameZeros report'.withTotals := by
  refine .of_others ?_ h.packages
  rw [Report.withTotals, Report.withTotals, h.countValid_eq, h.countCovered_eq]
  exact congrArg (fun r : Report =>
    { r with
      linesValid := report'.countValid
      linesCovered := report'.countCovered
      lineRate := rate report'.countCovered report'.countValid }) h.others

end SameZeros

end Report

/-! ## Contributions -/

/-- Two profiles are of one file, and their blocks differ in their counts alone, which are both zero
or both positive.  They may have been recorded in different modes. -/
structure Profile.SameZeros (profile other : Profile) : Prop where
  file : profile.file = other.file
  blocks : List.Forall₂ Block.SameZeros profile.blocks other.blocks

/-- The same source with blocks that differ in their counts alone. -/
structure Contribution.SameZeros (given other : Contribution) : Prop where
  source : given.source = other.source
  blocks : List.Forall₂ Block.SameZeros given.blocks other.blocks

theorem Contribution.SameZeros.classes {given other : Contribution} (h : given.SameZeros other)
    (grouping : Grouping) :
    List.Forall₂ Report.Class.SameZeros (given.classes grouping) (other.classes grouping) := by
  obtain ⟨package, file, declarations, blocks⟩ := given
  obtain ⟨_, _, _, others⟩ := other
  obtain ⟨source, same⟩ := h
  cases source
  exact Report.forall₂_classesOf file grouping declarations (forall₂_scanBlocks _ same)

theorem Report.SameZeros.record {report report' : Report} (h : report.SameZeros report')
    (grouping : Grouping) {given? other? : Option Contribution}
    (same : Option.Rel Contribution.SameZeros given? other?) :
    (report.record grouping given?).SameZeros (report'.record grouping other?) := by
  cases same with
  | none => exact h
  | @some given other same =>
    have package : given.package = other.package := congrArg Source.package same.source
    rw [Report.record, Report.record, package]
    exact h.changePackage other.package fun p p' h' => h'.addClasses (same.classes grouping)

/-! ## Conversions -/

namespace Conversion

variable {conversion : Conversion} {profiles others : List Profile}

/-- Taken in turn, contributions that differ in their counts alone keep the reports related. -/
theorem recordAll_sameZeros {report report' : Report} (h : report.SameZeros report')
    {taken taken' : List (Module.Package × Option Contribution)}
    (same : List.Forall₂
      (fun t t' => t.1 = t'.1 ∧ Option.Rel Contribution.SameZeros t.2 t'.2) taken taken') :
    (conversion.recordAll report taken).SameZeros (conversion.recordAll report' taken') := by
  refine List.rel_foldl ?_ h same
  rintro report report' known ⟨package, given?⟩ ⟨_, other?⟩ ⟨rfl, same⟩
  exact (known.addSource package.moduleRoot).record conversion.grouping same

/-- What is found for two profiles of one file is the same. -/
theorem taken?_sameZeros (conversion : Conversion) {profile other : Profile}
    (h : profile.SameZeros other) :
    Option.Rel (fun t t' => t.1 = t'.1 ∧ Option.Rel Contribution.SameZeros t.2 t'.2)
      (conversion.taken? profile) (conversion.taken? other) := by
  rw [taken?, taken?, h.file]
  cases (conversion.find other.file).toOption with
  | none => exact .none
  | some found =>
    refine .some ⟨rfl, ?_⟩
    dsimp only [Found.contribution?]
    cases found.source with
    | none => exact .none
    | some source => exact .some ⟨rfl, h.blocks⟩

/-- **Rates depend only on which counts are zero.**  Let two lists of profiles agree in everything
but the mode and the counts, and let a count be zero where the other one is.  Then a conversion
fails with the same failure on both, or makes two reports that are the same but for the hits: the
same packages, classes, methods and lines, the same totals and rates at every level, and each line
executed in both or in neither. -/
theorem convert_sameZeros (h : List.Forall₂ Profile.SameZeros profiles others) :
    Alike Report.SameZeros (conversion.convert profiles).2 (conversion.convert others).2 := by
  have files : profiles.map (·.file) = others.map (·.file) := by
    rw [← List.forall₂_eq_eq_eq, List.forall₂_map_left_iff, List.forall₂_map_right_iff]
    exact h.imp fun _ _ same => same.file
  have taken := List.rel_filterMap (fun _ _ same => conversion.taken?_sameZeros same) h
  rw [convert_eq, convert_eq, files]
  cases (others.map (·.file)).findSome? conversion.failure? with
  | some failure => exact .failed failure
  | none =>
    exact .succeeded (recordAll_sameZeros (.empty conversion.timestamp) taken).withTotals

/-- The profiles of the small module, recorded by whether a block was reached at all. -/
def smallSetProfiles : List Profile :=
  [⟨"m/a.go", .set, [⟨⟨⟨1, 8⟩, ⟨2, 18⟩⟩, 2, 1⟩]⟩,
    ⟨"m/b/c.go", .set, [⟨⟨⟨1, 10⟩, ⟨1, 17⟩⟩, 1, 0⟩]⟩,
    ⟨"m/g/c_gen.go", .set, []⟩,
    ⟨"m/a.go", .set, [⟨⟨⟨1, 8⟩, ⟨1, 11⟩⟩, 1, 1⟩]⟩]

theorem convert_sameZeros_small :
    List.Forall₂ Profile.SameZeros smallProfiles smallSetProfiles ∧
      ∃ report other, (smallConversion.convert smallProfiles).2 = .ok report ∧
        (smallConversion.convert smallSetProfiles).2 = .ok other ∧
        report.packages.map (·.name) = ["m", "m/b"] ∧ report.SameZeros other := by
  have same : List.Forall₂ Profile.SameZeros smallProfiles smallSetProfiles := by
    refine .cons ⟨rfl, .cons ⟨rfl, rfl, by decide⟩ .nil⟩ ?_
    refine .cons ⟨rfl, .cons ⟨rfl, rfl, by decide⟩ .nil⟩ ?_
    refine .cons ⟨rfl, .nil⟩ ?_
    exact .cons ⟨rfl, .cons ⟨rfl, rfl, by decide⟩ .nil⟩ .nil
  obtain ⟨report, converted, names⟩ := convert_smallProfiles
  have alike : Alike Report.SameZeros (smallConversion.convert smallProfiles).2
      (smallConversion.convert smallSetProfiles).2 := convert_sameZeros same
  rw [converted] at alike
  obtain ⟨other, converted', related⟩ := alike.exists_of_ok
  exact ⟨same, report, other, converted, converted', names, related⟩

end Conversion

end GoCoverage
