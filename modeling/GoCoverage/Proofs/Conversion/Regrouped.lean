import GoCoverage.Proofs.Conversion.Totals
import Mathlib.Data.List.Perm.Subperm

/-! # Another grouping

The grouping decides which class a declaration goes to, and nothing else: what is found for a file
and the lines of its declarations do not depend on it.  So each grouping sorts the same methods into
classes (`Source.perm_methods`), and one class for the whole file has them in the order of the
source (`Source.methods_byFile`).

A line of a class has the smallest count that it has in a method.  Smallest counts can be taken part
by part, so a line of the file's one class has the smallest count that it has in the classes of
another grouping (`Regrouped.lines`).  It is then a line with this very count of one of them, and so
no kind of line is more frequent by file (`Report.countP_classLines_le`). -/

namespace GoCoverage

open Go (Declaration)
open Profile (Block)
open Report (Grouping Package Method classNames classNameOf methodOf)

/-! ## The methods of a source -/

namespace Source

/-- The declarations of the source, each with its lines. -/
def joined (source : Source) (runs : List (List Block)) : List (Declaration × Lines) :=
  source.declarations.zip
    (Report.joinTables source.declarations.length (runs.map source.tables))

/-- The methods of the source, one for each declaration. -/
def methods (source : Source) (runs : List (List Block)) : List Method :=
  (source.joined runs).map fun table => (methodOf table.1 table.2).refresh

variable (source : Source) (grouping : Grouping) (runs : List (List Block))

theorem map_fst_joined : (source.joined runs).map (·.1) = source.declarations :=
  List.map_fst_zip Report.length_joinTables.ge

theorem forall₂_methods :
    List.Forall₂ (fun declaration method => method.IsOf declaration) source.declarations
      (source.methods runs) := by
  have own : List.Forall₂ (fun declaration (method : Method) => method.IsOf declaration)
      ((source.joined runs).map (·.1)) (source.methods runs) := by
    rw [methods, List.forall₂_map_left_iff, List.forall₂_map_right_iff, List.forall₂_same]
    exact fun table _ => ⟨rfl, rfl⟩
  rwa [map_fst_joined] at own

theorem methods_eq : source.methods runs =
    ((source.joined runs).map fun table => methodOf table.1 table.2).map Method.refresh := by
  rw [methods, List.map_map]
  rfl

/-- The classes have the methods that they have when they are sorted, with their rates. -/
theorem flatMap_methods_classes : (source.classes grouping runs).flatMap (·.methods) =
    ((Report.classesOf source.file grouping (source.joined runs)).flatMap (·.methods)).map
      Method.refresh := by
  show ((Report.classesOf _ _ (source.joined runs)).map Report.Class.refresh).flatMap _ = _
  rw [List.flatMap_map, List.map_flatMap]
  rfl

/-- **A grouping sorts the methods of a source into classes.** -/
theorem perm_methods :
    ((source.classes grouping runs).flatMap (·.methods)).Perm (source.methods runs) := by
  rw [flatMap_methods_classes, methods_eq]
  exact Report.perm_methods_classesOf.map Method.refresh

/-- One class for the whole file has the methods in the order of the source. -/
theorem methods_byFile :
    (source.classes .byFile runs).flatMap (·.methods) = source.methods runs := by
  rw [flatMap_methods_classes, Report.methods_classesOf_byFile, methods_eq]

theorem map_file_classes : (source.classes grouping runs).map (·.file) =
    (classNames grouping source.file source.declarations).map fun _ => source.file := by
  have keys := congrArg (List.map Report.Class.Key.file) (source.map_key_classes grouping runs)
  rwa [List.map_map, List.map_map] at keys

theorem file_of_mem_classes {c : Report.Class} (h : c ∈ source.classes grouping runs) :
    c.file = source.file := by
  have member : c.file ∈ (source.classes grouping runs).map (·.file) := List.mem_map_of_mem h
  rw [map_file_classes] at member
  obtain ⟨_, _, same⟩ := List.mem_map.mp member
  exact same.symm

theorem consistent_of_mem_classes {c : Report.Class} (h : c ∈ source.classes grouping runs) :
    c.Consistent := by
  obtain ⟨before, _, rfl⟩ := List.mem_map.mp h
  exact before.consistent_refresh

/-- A file makes one class by file if it makes any class. -/
theorem eraseDups_file_classes : ((source.classes grouping runs).map (·.file)).eraseDups =
    (source.classes .byFile runs).map (·.file) := by
  rw [map_file_classes, map_file_classes, eraseDups_map_const, Report.classNames_byFile]
  cases source.declarations with
  | nil => rfl
  | cons declaration declarations =>
    rw [classNames, List.map_cons, List.eraseDups_cons]
    rfl

end Source

/-! ## The classes of a package -/

/-- The methods of the classes of a file. -/
def methodsIn (classes : List Report.Class) (file : String) : List Method :=
  (classes.filter (·.file == file)).flatMap (·.methods)

/-- The counts that a line has in the classes of a file. -/
def countsIn (classes : List Report.Class) (file : String) (number : Nat) : Set Nat :=
  {hits | ∃ c ∈ classes, c.file = file ∧ c.lines.get? number = some hits}

/-- The declarations of a file. -/
def declaredIn (sources : List Source) (file : String) : List Declaration :=
  (sources.filter (·.file == file)).flatMap (·.declarations)

/-- Some classes of sources, `whole`, have for each file what others, `split`, have. -/
structure Regrouped (sources : List Source) (split whole : List Report.Class) : Prop where
  /-- There is one class for each file that has any. -/
  files : whole.map (·.file) = (split.map (·.file)).eraseDups
  /-- It has the declarations of the file in the order of the source. -/
  declared : ∀ file, List.Forall₂ (fun declaration method => method.IsOf declaration)
    (declaredIn sources file) (methodsIn whole file)
  /-- Each of them is in one of the other classes, with the same lines. -/
  methods : ∀ file, (methodsIn split file).Perm (methodsIn whole file)
  /-- The same lines are listed for the file. -/
  numbers : ∀ file number, (∃ c ∈ whole, c.file = file ∧ (c.lines.get? number).isSome) ↔
    ∃ part ∈ split, part.file = file ∧ (part.lines.get? number).isSome
  /-- Each of them has the smallest count that it has in the other classes. -/
  lines : ∀ c ∈ whole, c.lines.Least (countsIn split c.file)

theorem mem_methodsIn {classes : List Report.Class} {file : String} {method : Method} :
    method ∈ methodsIn classes file ↔ ∃ c ∈ classes, c.file = file ∧ method ∈ c.methods := by
  simp only [methodsIn, List.mem_flatMap, List.mem_filter, beq_iff_eq, and_assoc]

section Lines

variable {split whole : List Report.Class}

/-- **Smallest counts can be taken part by part.** -/
theorem least_parts (distinct : (whole.map (·.file)).Nodup)
    (methods : ∀ file, (methodsIn split file).Perm (methodsIn whole file))
    (consistent : ∀ part ∈ split, part.Consistent) {c : Report.Class} (member : c ∈ whole)
    (own : c.Consistent) : c.lines.Least (countsIn split c.file) := by
  have isOf : ∀ method, method ∈ c.methods ↔
      ∃ part ∈ split, part.file = c.file ∧ method ∈ part.methods := by
    intro method
    rw [← mem_methodsIn, (methods c.file).mem_iff, mem_methodsIn]
    constructor
    · intro isMethod
      exact ⟨c, member, rfl, isMethod⟩
    · rintro ⟨other, member', same, isMethod⟩
      exact List.inj_on_of_nodup_map distinct member' member same ▸ isMethod
  intro number
  refine (own.lines number).of_subset ?_ ?_
  · -- the count of a part is that of a method
    rintro hits ⟨part, isPart, same, listed⟩
    obtain ⟨method, isMethod, listed⟩ :=
      (((consistent part isPart).lines number hits).mp listed).1
    exact ⟨method, (isOf method).mpr ⟨part, isPart, same, isMethod⟩, listed⟩
  · -- and the part of a method has a count that is not greater
    rintro hits ⟨method, isMethod, listed⟩
    obtain ⟨part, isPart, same, isMethod⟩ := (isOf method).mp isMethod
    have counted : hits ∈ countsOfMethods part.methods number := ⟨method, isMethod, listed⟩
    have least := (consistent part isPart).lines number
    obtain ⟨other, listed⟩ := Option.isSome_iff_exists.mp (least.isSome_iff.mpr ⟨hits, counted⟩)
    exact ⟨other, ⟨part, isPart, same, listed⟩, ((least other).mp listed).2 counted⟩

/-- The same lines are listed if each has the smallest of its counts. -/
theorem exists_isSome_iff (files : whole.map (·.file) = (split.map (·.file)).eraseDups)
    (lines : ∀ c ∈ whole, c.lines.Least (countsIn split c.file))
    (file : String) (number : Nat) :
    (∃ c ∈ whole, c.file = file ∧ (c.lines.get? number).isSome) ↔
      ∃ part ∈ split, part.file = file ∧ (part.lines.get? number).isSome := by
  constructor
  · rintro ⟨c, isClass, rfl, listed⟩
    obtain ⟨hits, part, isPart, same, listed⟩ := (lines c isClass number).isSome_iff.mp listed
    exact ⟨part, isPart, same, by rw [listed, Option.isSome_some]⟩
  · rintro ⟨part, isPart, rfl, listed⟩
    have isFile : part.file ∈ whole.map (·.file) :=
      files ▸ List.mem_eraseDups.mpr (List.mem_map_of_mem isPart)
    obtain ⟨c, isClass, same⟩ := List.mem_map.mp isFile
    obtain ⟨hits, listed⟩ := Option.isSome_iff_exists.mp listed
    exact ⟨c, isClass, same,
      (lines c isClass number).isSome_iff.mpr ⟨hits, part, isPart, same.symm, listed⟩⟩

end Lines

section Sources

variable {sources : List Source} {runs : Source → List (List Block)} {grouping : Grouping}

/-- The methods of a file are those of its sources. -/
theorem methodsIn_classes (file : String) :
    methodsIn (sources.flatMap fun source => source.classes grouping (runs source)) file =
      (sources.filter (·.file == file)).flatMap fun source =>
        (source.classes grouping (runs source)).flatMap (·.methods) := by
  rw [methodsIn, List.filter_flatMap, List.flatMap_assoc]
  refine flatMap_eq_flatMap_filter fun source _ => ?_
  have same : (source.classes grouping (runs source)).filter (·.file == file) =
      if source.file == file then source.classes grouping (runs source) else [] := by
    split
    · rename_i same
      exact List.filter_eq_self.mpr fun c member => by
        rw [source.file_of_mem_classes grouping _ member, same]
    · rename_i other
      exact List.filter_eq_nil_iff.mpr fun c member => by
        rw [source.file_of_mem_classes grouping _ member]
        exact other
  rw [same]
  split <;> rfl

/-- The files with classes are the same in any grouping. -/
theorem map_file_flatMap_classes (grouping : Grouping) (runs : Source → List (List Block))
    (distinct : (sources.map (·.file)).Nodup) :
    (sources.flatMap fun source => source.classes .byFile (runs source)).map (·.file) =
      ((sources.flatMap fun source => source.classes grouping (runs source)).map
        (·.file)).eraseDups := by
  rw [List.map_flatMap, List.map_flatMap, eraseDups_flatMap_of_disjoint]
  · exact List.flatMap_congr fun source _ => (source.eraseDups_file_classes grouping _).symm
  · -- different sources have classes of different files
    refine (List.pairwise_map.mp distinct).imp fun apart file member member' => ?_
    obtain ⟨_, isClass, rfl⟩ := List.mem_map.mp member
    obtain ⟨_, isClass', same⟩ := List.mem_map.mp member'
    rw [Source.file_of_mem_classes _ _ _ isClass, Source.file_of_mem_classes _ _ _ isClass'] at same
    exact apart same.symm

/-- **One class for each file has what the classes of any grouping have.** -/
theorem regrouped_classes (distinct : (sources.map (·.file)).Nodup) :
    Regrouped sources (sources.flatMap fun source => source.classes grouping (runs source))
      (sources.flatMap fun source => source.classes .byFile (runs source)) := by
  have files := map_file_flatMap_classes grouping runs distinct
  have methods : ∀ file,
      (methodsIn (sources.flatMap fun source => source.classes grouping (runs source)) file).Perm
        (methodsIn (sources.flatMap fun source => source.classes .byFile (runs source)) file) := by
    intro file
    rw [methodsIn_classes, methodsIn_classes]
    refine List.Perm.flatMap_left _ fun source _ => ?_
    rw [source.methods_byFile]
    exact source.perm_methods grouping (runs source)
  have consistent : ∀ grouping, ∀ c ∈ sources.flatMap fun source =>
      source.classes grouping (runs source), c.Consistent := by
    intro grouping c member
    obtain ⟨source, _, member⟩ := List.mem_flatMap.mp member
    exact source.consistent_of_mem_classes grouping _ member
  have lines := fun c member => least_parts (files ▸ nodup_eraseDups _) methods
    (consistent grouping) member (consistent .byFile c member)
  refine ⟨files, fun file => ?_, methods, exists_isSome_iff files lines, lines⟩
  rw [declaredIn, methodsIn_classes]
  refine List.rel_flatMap (R := Eq) (List.forall₂_same.mpr fun _ _ => rfl) ?_
  rintro source _ rfl
  dsimp only
  rw [source.methods_byFile]
  exact source.forall₂_methods (runs source)

end Sources

/-! ## Reports -/

namespace Report

variable {sources : List Source} {split whole : Report}

/-- A line of a file's one class is, with its count, a line of one of the other classes, so **no
kind of line is more frequent by file**. -/
theorem countP_classLines_le (h : Regrouped sources split.classes whole.classes) (p : Line → Bool) :
    (whole.classLines.countP fun entry => p entry.2) ≤
      split.classLines.countP fun entry => p entry.2 := by
  have distinct : (whole.classLines.map (placeOf Class.Key.file)).Nodup := by
    refine nodup_map_classLines ?_
    show (whole.classes.map (·.file)).Nodup
    rw [h.files]
    exact nodup_eraseDups _
  have subset : (whole.classLines.filter fun entry => p entry.2).map (placeOf Class.Key.file) ⊆
      (split.classLines.filter fun entry => p entry.2).map (placeOf Class.Key.file) := by
    intro place member
    obtain ⟨⟨key, line⟩, isEntry, rfl⟩ := List.mem_map.mp member
    obtain ⟨isLine, isCounted⟩ := List.mem_filter.mp isEntry
    obtain ⟨c, isClass, rfl, listed⟩ := mem_classLines.mp isLine
    obtain ⟨part, isPart, same, listed⟩ := ((h.lines c isClass line.number line.hits).mp listed).1
    have isLine' : (part.key, line) ∈ split.classLines :=
      mem_classLines.mpr ⟨part, isPart, rfl, listed⟩
    exact List.mem_map.mpr ⟨(part.key, line), List.mem_filter.mpr ⟨isLine', isCounted⟩,
      congrArg (Place.mk · line.number) same⟩
  have count := ((distinct.sublist (List.filter_sublist.map _)).subperm subset).length_le
  rwa [List.length_map, List.length_map, ← List.countP_eq_length_filter,
    ← List.countP_eq_length_filter] at count

/-- The lines that are not executed. -/
theorem countValid_sub_countCovered (report : Report) :
    report.countValid - report.countCovered =
      report.classLines.countP fun entry => !decide (0 < entry.2.hits) := by
  rw [countValid_eq_length, countCovered_eq_countP,
    List.length_eq_countP_add_countP fun entry => decide (0 < entry.2.hits),
    Nat.add_sub_cancel_left]
  refine List.countP_congr fun entry _ => ?_
  simp

theorem countCovered_le_countValid (report : Report) : report.countCovered ≤ report.countValid :=
  sum_le_sum fun package _ => package.linesCovered_le_linesValid

/-- A report by file, `whole`, has what a report in other classes, `split`, has. -/
structure Regroups (sources : List Source) (split whole : Report) : Prop where
  directories : whole.sources = split.sources
  packages : List.Forall₂
    (fun part package => package.name = part.name ∧
      Regrouped (sources.filter (·.package == part.name)) part.classes package.classes)
    split.packages whole.packages
  valid : whole.linesValid ≤ split.linesValid
  covered : whole.linesCovered ≤ split.linesCovered
  covered_le : split.linesCovered ≤ split.linesValid ∧ whole.linesCovered ≤ whole.linesValid
  uncovered : whole.linesValid - whole.linesCovered ≤ split.linesValid - split.linesCovered

theorem classes_ofSources (timestamp : Int) (directories : List String) (grouping : Grouping)
    (sources : List Source) (runs : Source → List (List Block)) :
    (ofSources timestamp directories grouping sources runs).classes =
      (byPackage sources).flatMap fun source => source.classes grouping (runs source) := by
  rw [Report.classes, packages_ofSources, flatMap_classes_packagesOf]

/-- **The report of sources by file has what the one in other classes has.** -/
theorem regroups_ofSources (timestamp : Int) (directories : List String) (grouping : Grouping)
    (distinct : (sources.map (·.file)).Nodup) (runs : Source → List (List Block)) :
    Regroups sources (ofSources timestamp directories grouping sources runs)
      (ofSources timestamp directories .byFile sources runs) := by
  have all : Regrouped (byPackage sources)
      (ofSources timestamp directories grouping sources runs).classes
      (ofSources timestamp directories .byFile sources runs).classes := by
    rw [classes_ofSources, classes_ofSources]
    exact regrouped_classes (nodup_map_file_byPackage distinct)
  constructor
  case directories => rw [sources_ofSources, sources_ofSources]
  case packages =>
    rw [packages_ofSources, packages_ofSources, packagesOf, packagesOf,
      List.forall₂_map_left_iff, List.forall₂_map_right_iff, List.forall₂_same]
    intro name _
    rw [Package.name_ofClasses, Package.name_ofClasses]
    exact ⟨rfl, regrouped_classes (distinct.sublist (List.filter_sublist.map _))⟩
  all_goals simp only [linesValid_ofSources, linesCovered_ofSources]
  case valid =>
    rw [countValid_eq_length, countValid_eq_length, ← List.countP_true]
    exact countP_classLines_le all fun _ => true
  case covered =>
    rw [countCovered_eq_countP, countCovered_eq_countP]
    exact countP_classLines_le all fun line => 0 < line.hits
  case covered_le => exact ⟨countCovered_le_countValid _, countCovered_le_countValid _⟩
  case uncovered =>
    rw [countValid_sub_countCovered, countValid_sub_countCovered]
    exact countP_classLines_le all fun line => !decide (0 < line.hits)

end Report

/-! ## Modules -/

namespace Module

/-- **A grouping only regroups.**  Whether classes are made by type or by file, a conversion fails
with the same failure, or comes to reports with the same directories and packages.  Each file has
its declarations with the same lines in both; and a line of the file's class has the smallest count
that it has in the classes by type.  So no more lines are counted by file, no more executed lines,
and no more lines that are not executed. -/
theorem convert_regroups (module : Module) (files : Files) (ignore : Ignore) (timestamp : Int)
    (profiles : List Profile) :
    let byType := module.conversion files ignore .byType timestamp
    let byFile := module.conversion files ignore .byFile timestamp
    Alike (Report.Regroups (byType.sources profiles)) (byType.convert profiles).2
      (byFile.convert profiles).2 := by
  intro byType byFile
  have apart : byType.Apart := module.apart_conversion files ignore .byType timestamp
  have apart' : byFile.Apart := module.apart_conversion files ignore .byFile timestamp
  -- what is found for a file does not depend on the grouping
  have failures : (profiles.map (·.file)).findSome? byFile.failure? =
      (profiles.map (·.file)).findSome? byType.failure? := rfl
  rw [Conversion.convert_eq_reportOf apart, Conversion.convert_eq_reportOf apart', failures]
  cases (profiles.map (·.file)).findSome? byType.failure? with
  | some failure => exact .failed failure
  | none =>
    exact .succeeded (Report.regroups_ofSources timestamp (byType.directories profiles) .byType
      (apart.nodup_file_sources profiles) (byType.runs profiles))

/-- How a line of a function and a method is counted. -/
def sharedLineBy (grouping : Grouping) : Conversion :=
  smallModule.conversion sharedLine.files ⟨none, none, none, none, false⟩ grouping 0

/-- A grouping by file counts less: one line that is not executed, instead of one that is and one
that is not. -/
theorem convert_regroups_sharedLine :
    ∃ split whole : Report,
      ((sharedLineBy .byType).convert [sharedLineProfile]).2 = .ok split ∧
      ((sharedLineBy .byFile).convert [sharedLineProfile]).2 = .ok whole ∧
      split.linesValid = 2 ∧ split.linesCovered = 1 ∧
      whole.linesValid = 1 ∧ whole.linesCovered = 0 ∧
      Report.Regroups ((sharedLineBy .byType).sources [sharedLineProfile]) split whole := by
  obtain ⟨split, converted, totals⟩ :
      ∃ report, ((sharedLineBy .byType).convert [sharedLineProfile]).2 = .ok report ∧
        (report.linesValid, report.linesCovered) = (2, 1) :=
    exists_eq_ok_of_map (by decide +kernel)
  obtain ⟨whole, converted', totals'⟩ :
      ∃ report, ((sharedLineBy .byFile).convert [sharedLineProfile]).2 = .ok report ∧
        (report.linesValid, report.linesCovered) = (1, 0) :=
    exists_eq_ok_of_map (by decide +kernel)
  obtain ⟨valid, covered⟩ := Prod.mk.inj totals
  obtain ⟨valid', covered'⟩ := Prod.mk.inj totals'
  have alike : Alike (Report.Regroups ((sharedLineBy .byType).sources [sharedLineProfile]))
      ((sharedLineBy .byType).convert [sharedLineProfile]).2
      ((sharedLineBy .byFile).convert [sharedLineProfile]).2 :=
    convert_regroups smallModule sharedLine.files ⟨none, none, none, none, false⟩ 0
      [sharedLineProfile]
  rw [converted, converted'] at alike
  cases alike with
  | succeeded regroups =>
    exact ⟨split, whole, converted, converted', valid, covered, valid', covered', regroups⟩

end Module

end GoCoverage
