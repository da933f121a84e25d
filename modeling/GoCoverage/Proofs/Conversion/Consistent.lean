import GoCoverage.Proofs.Conversion.Run
import GoCoverage.Proofs.Lines.Least
import GoCoverage.Proofs.Report.Classes

/-! # Consistent reports

Rates, totals and the lines of classes are kept with the nodes of a report, and only the nodes that
a file touches are brought up to date.  So every node could be stale: a package that is finished and
met again later, a class that is left alone while others change, a package that gets no class.

None is.  What is brought up to date is consistent whatever it was before (`consistent_refresh`), a
step does so with all that it touches (`Report.WellBuilt.record`), and the totals come last.  So the
report of a conversion that succeeds is consistent in all its nodes (`Report.Consistent`). -/

namespace GoCoverage

namespace Report

/-! ## Methods and classes -/

/-- A method is consistent with its lines. -/
structure Method.Consistent (method : Method) : Prop where
  ascending : method.lines.toList.Pairwise (·.number < ·.number)
  rate : method.lineRate = Report.rate method.lines.covered method.lines.size
  covered : method.lines.covered ≤ method.lines.size

/-- A class is consistent with its methods, and they are consistent: its lines are theirs, each with
the smallest count that it has in any of them. -/
structure Class.Consistent (c : Class) : Prop where
  methods : ∀ method ∈ c.methods, method.Consistent
  ascending : c.lines.toList.Pairwise (·.number < ·.number)
  lines : c.lines.Least (countsOfMethods c.methods)
  rate : c.lineRate = Report.rate c.lines.covered c.lines.size
  covered : c.lines.covered ≤ c.lines.size

theorem Method.consistent_refresh (method : Method) : method.refresh.Consistent where
  ascending := method.lines.ascending
  rate := rfl
  covered := method.lines.covered_le_size

/-- **A class that is brought up to date is consistent**, whatever its methods are. -/
theorem Class.consistent_refresh (c : Class) : c.refresh.Consistent where
  methods := by
    intro method member
    obtain ⟨before, _, rfl⟩ := List.mem_map.mp member
    exact before.consistent_refresh
  ascending := c.refresh.lines.ascending
  lines := least_linesOfMethods c.refresh.methods
  rate := rfl
  covered := c.refresh.lines.covered_le_size

/-! ## Packages -/

section Sums

variable {α : Type} {f g : α → Nat}

theorem sum_le_sum {list : List α} (each : ∀ a ∈ list, f a ≤ g a) :
    list.foldr (fun a total => f a + total) 0 ≤ list.foldr (fun a total => g a + total) 0 := by
  induction list with
  | nil => exact Nat.le_refl 0
  | cons a list ih =>
    exact Nat.add_le_add (each a List.mem_cons_self)
      (ih fun b member => each b (List.mem_cons_of_mem a member))

end Sums

/-- The classes of a package are consistent, and no two have the same name and file. -/
structure Package.WellBuilt (package : Package) : Prop where
  classes : ∀ c ∈ package.classes, c.Consistent
  distinct : (package.classes.map Class.key).Nodup

/-- A package is consistent with its classes, and they are consistent. -/
structure Package.Consistent (package : Package) : Prop extends package.WellBuilt where
  rate : package.lineRate = Report.rate package.linesCovered package.linesValid
  covered : package.linesCovered ≤ package.linesValid

namespace Package

variable {package : Package}

theorem WellBuilt.empty (name : String) : (Package.empty name).WellBuilt where
  classes := by simp [Package.empty]
  distinct := by simp [Package.empty]

theorem linesCovered_le_linesValid (package : Package) :
    package.linesCovered ≤ package.linesValid :=
  sum_le_sum fun c _ => c.lines.covered_le_size

/-- A package that is brought up to date is consistent if its classes are. -/
theorem WellBuilt.refresh (h : package.WellBuilt) : package.refresh.Consistent where
  classes := h.classes
  distinct := h.distinct
  rate := rfl
  covered := linesCovered_le_linesValid package

/-- A class that is joined with another is brought up to date, and keeps its name and file. -/
theorem WellBuilt.changeClass (h : package.WellBuilt) (c : Class) :
    (package.changeClass c.name c.file fun known => (known.merge c).refresh).WellBuilt where
  classes := by
    intro other member
    -- only one class is touched, and it has just been brought up to date
    rcases mem_changeOrAdd member with old | ⟨known, _, rfl⟩ | rfl
    · exact h.classes other old
    · exact Class.consistent_refresh _
    · exact Class.consistent_refresh _
  distinct := by
    rw [classes_changeClass]
    refine nodup_map_changeOrAdd Class.key c.key ?_ ?_ h.distinct
    · rfl
    · exact fun known => key_merge_refresh known c

/-- A package with the classes of one more file is consistent if its classes were. -/
theorem WellBuilt.addClasses (h : package.WellBuilt) (classes : List Class) :
    (package.addClasses classes).Consistent := by
  refine WellBuilt.refresh ?_
  induction classes generalizing package with
  | nil => exact h
  | cons c classes ih => exact ih (h.changeClass c)

end Package

/-! ## Reports -/

/-- The packages of a report are consistent, and no package and no directory is listed twice. -/
structure WellBuilt (report : Report) : Prop where
  packages : ∀ package ∈ report.packages, package.Consistent
  distinct : (report.packages.map (·.name)).Nodup
  sources : report.sources.Nodup

/-- A report is consistent with its packages, and they are consistent. -/
structure Consistent (report : Report) : Prop extends report.WellBuilt where
  valid : report.linesValid = report.countValid
  covered : report.linesCovered = report.countCovered
  rate : report.lineRate = Report.rate report.linesCovered report.linesValid
  covered_le : report.linesCovered ≤ report.linesValid

namespace WellBuilt

variable {report : Report}

theorem empty (timestamp : Int) : (Report.empty timestamp).WellBuilt where
  packages := by simp [Report.empty]
  distinct := by simp [Report.empty]
  sources := by simp [Report.empty]

theorem addSource (h : report.WellBuilt) (directory : String) :
    (report.addSource directory).WellBuilt := by
  rw [Report.addSource]
  split
  · exact h
  · rename_i new
    refine ⟨h.packages, h.distinct, List.Nodup.append h.sources (List.nodup_singleton _) ?_⟩
    simpa using new

/-- **A step keeps a report well built**: the package that it touches is brought up to date, and all
others are as they were. -/
theorem record (h : report.WellBuilt) (grouping : Grouping) (given? : Option Contribution) :
    (report.record grouping given?).WellBuilt := by
  cases given? with
  | none => exact h
  | some given =>
    refine ⟨?_, nodup_map_changeOrAdd Package.name given.package rfl
      (fun _ => Package.name_addClasses) h.distinct, h.sources⟩
    intro package member
    rcases mem_changeOrAdd member with old | ⟨known, isKnown, rfl⟩ | rfl
    · exact h.packages package old
    · exact (h.packages known isKnown).toWellBuilt.addClasses _
    · exact (Package.WellBuilt.empty given.package).addClasses _

/-- The totals come from the packages. -/
theorem withTotals (h : report.WellBuilt) : report.withTotals.Consistent where
  packages := h.packages
  distinct := h.distinct
  sources := h.sources
  valid := rfl
  covered := rfl
  rate := rfl
  covered_le := sum_le_sum fun package _ => package.linesCovered_le_linesValid

end WellBuilt

end Report

namespace Conversion

variable {conversion : Conversion} {profiles : List Profile} {report : Report}

/-- A run keeps a report well built. -/
theorem wellBuilt_recordAll (h : report.WellBuilt)
    (taken : List (Module.Package × Option Contribution)) :
    (conversion.recordAll report taken).WellBuilt := by
  induction taken generalizing report with
  | nil => exact h
  | cons t taken ih => exact ih ((h.addSource t.1.moduleRoot).record conversion.grouping t.2)

/-- **The report of a conversion that succeeds is consistent in all its nodes**, whatever the files,
the packages that they are found in, what is left out, and the order of the profiles. -/
theorem convert_consistent (h : (conversion.convert profiles).2 = .ok report) :
    report.Consistent := by
  obtain ⟨taken, _, rfl⟩ := convert_eq_ok h
  exact (wellBuilt_recordAll (.empty conversion.timestamp) taken).withTotals

theorem convert_consistent_small :
    ∃ report, (smallConversion.convert smallProfiles).2 = .ok report ∧
      report.packages.map (·.name) = ["m", "m/b"] ∧ report.Consistent := by
  obtain ⟨report, h, names⟩ := convert_smallProfiles
  exact ⟨report, h, names, convert_consistent h⟩

end Conversion

end GoCoverage
