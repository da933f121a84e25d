import GoCoverage.Proofs.Conversion.Sources
import Mathlib.Data.List.Perm.Basic
import Mathlib.Data.List.Rotate

/-! # The order of the profiles

A report lists what it has met in the order in which it was met, so the order of the profiles can be
seen in it.  It cannot be seen in anything else: profiles in another order have the same sources,
each with the same runs but for their order, and the classes of a source do not depend on the order
of its runs (`Source.classes_congr`).  So both reports have the same packages, classes and
directories, in an order of their own (`Report.SameUpToOrder`). -/

namespace GoCoverage

open Report (Grouping Package)
open Profile (Block)

/-! ## Reports that differ in their order -/

/-- Two packages differ at most in the order of their classes. -/
structure Report.Package.SameUpToOrder (package other : Package) : Prop where
  name : package.name = other.name
  lineRate : package.lineRate = other.lineRate
  classes : package.classes.Perm other.classes

/-- Two reports differ at most in the order of their directories, of their packages, and of the
classes in a package. -/
structure Report.SameUpToOrder (report other : Report) : Prop where
  linesValid : report.linesValid = other.linesValid
  linesCovered : report.linesCovered = other.linesCovered
  lineRate : report.lineRate = other.lineRate
  /-- All else that is not a list. -/
  others : { report with sources := other.sources, packages := other.packages } = other
  sources : report.sources.Perm other.sources
  packages : ∃ arranged, report.packages.Perm arranged ∧
    List.Forall₂ Package.SameUpToOrder arranged other.packages

/-! ## Sums -/

section Sums

variable {α β : Type} {f : α → Nat} {g : β → Nat}

theorem sum_eq_of_perm {list other : List α} (h : list.Perm other) :
    list.foldr (fun a total => f a + total) 0 = other.foldr (fun a total => f a + total) 0 := by
  induction h with
  | nil => rfl
  | cons a _ ih => exact congrArg (f a + ·) ih
  | swap a b list => exact Nat.add_left_comm _ _ _
  | trans _ _ ih ih' => exact ih.trans ih'

theorem sum_eq_of_forall₂ {list : List α} {other : List β}
    (h : List.Forall₂ (fun a b => f a = g b) list other) :
    list.foldr (fun a total => f a + total) 0 = other.foldr (fun b total => g b + total) 0 := by
  induction h with
  | nil => rfl
  | cons same _ ih => exact congrArg₂ (· + ·) same ih

end Sums

namespace Report

variable {package other : Package}

theorem Package.linesValid_perm (h : package.classes.Perm other.classes) :
    package.linesValid = other.linesValid :=
  sum_eq_of_perm h

theorem Package.linesCovered_perm (h : package.classes.Perm other.classes) :
    package.linesCovered = other.linesCovered :=
  sum_eq_of_perm h

/-- Packages whose classes differ in their order have the same rate. -/
theorem Package.sameUpToOrder_ofClasses (name : String) {classes others : List Class}
    (h : classes.Perm others) :
    (Package.ofClasses name classes).SameUpToOrder (.ofClasses name others) where
  name := rfl
  lineRate := by
    have valid : Package.linesValid ⟨name, 0, classes⟩ = Package.linesValid ⟨name, 0, others⟩ :=
      linesValid_perm h
    have covered :
        Package.linesCovered ⟨name, 0, classes⟩ = Package.linesCovered ⟨name, 0, others⟩ :=
      linesCovered_perm h
    show rate _ _ = rate _ _
    rw [valid, covered]
  classes := h

/-- The totals of a report do not depend on the order of what it lists. -/
theorem SameUpToOrder.withTotals {report : Report} {directories : List String}
    {packages arranged : List Package} (sources : report.sources.Perm directories)
    (perm : report.packages.Perm arranged)
    (same : List.Forall₂ Package.SameUpToOrder arranged packages) :
    report.withTotals.SameUpToOrder
      { report with sources := directories, packages := packages }.withTotals := by
  have valid : report.countValid =
      { report with sources := directories, packages := packages }.countValid :=
    (sum_eq_of_perm perm).trans
      (sum_eq_of_forall₂ (same.imp fun _ _ h => Package.linesValid_perm h.classes))
  have covered : report.countCovered =
      { report with sources := directories, packages := packages }.countCovered :=
    (sum_eq_of_perm perm).trans
      (sum_eq_of_forall₂ (same.imp fun _ _ h => Package.linesCovered_perm h.classes))
  have rates : report.withTotals.lineRate =
      { report with sources := directories, packages := packages }.withTotals.lineRate := by
    show rate _ _ = rate _ _
    rw [valid, covered]
  refine ⟨valid, covered, rates, ?_, sources, arranged, perm, same⟩
  show { report with
    linesValid := report.countValid
    linesCovered := report.countCovered
    lineRate := rate report.countCovered report.countValid
    sources := directories
    packages := packages } = _
  rw [valid, covered]
  rfl

end Report

/-! ## Sources in another order -/

/-- Sources in another order make the same packages. -/
theorem exists_perm_packagesOf {grouping : Grouping} {sources others : List Source}
    {runs runs' : Source → List (List Block)} (h : sources.Perm others)
    (same : ∀ source : Source, source.classes grouping (runs source) =
      source.classes grouping (runs' source)) :
    ∃ arranged, (packagesOf grouping sources runs).Perm arranged ∧
      List.Forall₂ Package.SameUpToOrder arranged (packagesOf grouping others runs') := by
  have names : (sources.map (·.package)).eraseDups.Perm (others.map (·.package)).eraseDups :=
    perm_eraseDups (h.map _)
  refine ⟨_, names.map _, ?_⟩
  rw [packagesOf, List.forall₂_map_left_iff, List.forall₂_map_right_iff, List.forall₂_same]
  intro name _
  refine Package.sameUpToOrder_ofClasses name ?_
  simp only [same]
  exact (h.filter _).flatMap_right _

/-! ## Conversions -/

namespace Conversion

variable {conversion : Conversion} {profiles others : List Profile}

/-- The reports of profiles in another order differ at most in their order. -/
theorem sameUpToOrder_reportOf (h : profiles.Perm others) :
    (conversion.reportOf profiles).SameUpToOrder (conversion.reportOf others) := by
  have files := h.map (·.file)
  have sources : (conversion.sources profiles).Perm (conversion.sources others) :=
    perm_eraseDups (files.filterMap conversion.source?)
  have directories : (conversion.directories profiles).Perm (conversion.directories others) :=
    perm_eraseDups (files.filterMap conversion.root?)
  obtain ⟨arranged, perm, same⟩ := exists_perm_packagesOf sources fun source =>
    source.classes_congr conversion.grouping fun _ => ((h.filter _).map _).mem_iff
  exact Report.SameUpToOrder.withTotals directories perm same

end Conversion

namespace Module

variable {module : Module} {files : Files} {ignore : Ignore} {grouping : Grouping}
variable {timestamp : Int} {profiles others : List Profile}

/-- **The order of the profiles does not matter.**  Profiles in another order are converted if they
are, and then the reports are the same up to the order of packages, of classes in a package, and of
directories. -/
theorem convert_perm (h : profiles.Perm others) :
    let conversion := module.conversion files ignore grouping timestamp
    ((∃ report, (conversion.convert profiles).2 = .ok report) ↔
        ∃ report, (conversion.convert others).2 = .ok report) ∧
      ∀ report other, (conversion.convert profiles).2 = .ok report →
        (conversion.convert others).2 = .ok other → report.SameUpToOrder other := by
  intro conversion
  have apart : conversion.Apart := module.apart_conversion files ignore grouping timestamp
  constructor
  · simp only [Conversion.convert_eq_ok_iff apart, exists_eq_right, h.mem_iff]
  · intro report other converted converted'
    obtain ⟨_, rfl⟩ := (Conversion.convert_eq_ok_iff apart).mp converted
    obtain ⟨_, rfl⟩ := (Conversion.convert_eq_ok_iff apart).mp converted'
    exact Conversion.sameUpToOrder_reportOf h

/-- The profiles of the small module with the first one at the end: now the package of the other
file is met first. -/
theorem convert_perm_small :
    smallProfiles.Perm (smallProfiles.rotate 1) ∧
      ∃ report other, (smallConversion.convert smallProfiles).2 = .ok report ∧
        (smallConversion.convert (smallProfiles.rotate 1)).2 = .ok other ∧
        report.packages.map (·.name) = ["m", "m/b"] ∧
        other.packages.map (·.name) = ["m/b", "m"] ∧ report.SameUpToOrder other := by
  have perm : smallProfiles.Perm (smallProfiles.rotate 1) := (List.rotate_perm smallProfiles 1).symm
  obtain ⟨report, converted, names⟩ := convert_smallProfiles
  obtain ⟨other, converted', names'⟩ :
      ∃ other, (smallConversion.convert (smallProfiles.rotate 1)).2 = .ok other ∧
        other.packages.map (·.name) = ["m/b", "m"] :=
    exists_eq_ok_of_map (by decide +kernel)
  exact ⟨perm, report, other, converted, converted', names, names',
    (convert_perm perm).2 report other converted converted'⟩

end Module

end GoCoverage
