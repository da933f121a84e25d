import GoCoverage.Proofs.Conversion.Consistent
import GoCoverage.Proofs.Conversion.Sources

/-! # What the totals count

The totals of a report are sums over its classes.  A line that several methods of a class share is
in the table of the class once, so it counts once for the class, and it counts as executed if it is
executed in all of them (`Report.countValid_eq`, `Report.countCovered_eq`).  It counts again for
each other class that has it.  So the totals count lines of source files exactly if no two classes
of a file share a line, as when a file makes one class (`Module.convert_counts`): a function and a
method on one line are in different classes when classes are made by type
(`Module.shared_line_counts_twice`). -/

namespace GoCoverage

open Profile (Block)
open Report (Grouping Package)

namespace Report

/-! ## Lines and their places -/

/-- A line in a report, known by its number and by some owner: its class, or its file. -/
structure Place (κ : Type) where
  owner : κ
  number : Nat
deriving DecidableEq

/-- The place with another owner. -/
def Place.map {κ ρ : Type} (f : κ → ρ) (place : Place κ) : Place ρ := ⟨f place.owner, place.number⟩

/-- The classes of all packages. -/
def classes (report : Report) : List Class := report.packages.flatMap (·.classes)

/-- The lines of all methods, each with what its class is known by. -/
def methodLines (report : Report) : List (Class.Key × Line) :=
  report.classes.flatMap fun c =>
    c.methods.flatMap fun method => method.lines.toList.map fun line => (c.key, line)

/-- The lines of all classes, each with what its class is known by. -/
def classLines (report : Report) : List (Class.Key × Line) :=
  report.classes.flatMap fun c => c.lines.toList.map fun line => (c.key, line)

variable {κ : Type} [DecidableEq κ] {report : Report}

/-- The place of a line of a class, for owners that are known from the class. -/
def placeOf (owner : Class.Key → κ) (entry : Class.Key × Line) : Place κ :=
  ⟨owner entry.1, entry.2.number⟩

/-- The places of the lines of methods, each once. -/
def places (owner : Class.Key → κ) (report : Report) : List (Place κ) :=
  (report.methodLines.map (placeOf owner)).eraseDups

/-- The line at a place is executed in every method that has it. -/
def ExecutedAt (owner : Class.Key → κ) (report : Report) (place : Place κ) : Prop :=
  ∀ entry ∈ report.methodLines, placeOf owner entry = place → 0 < entry.2.hits

instance (owner : Class.Key → κ) (report : Report) (place : Place κ) :
    Decidable (report.ExecutedAt owner place) :=
  inferInstanceAs (Decidable (∀ entry ∈ report.methodLines, _))

/-- The places of the lines that are executed in every method that has them, each once. -/
def coveredPlaces (owner : Class.Key → κ) (report : Report) : List (Place κ) :=
  (report.places owner).filter fun place => report.ExecutedAt owner place

theorem mem_classLines {key : Class.Key} {line : Line} :
    (key, line) ∈ report.classLines ↔
      ∃ c ∈ report.classes, c.key = key ∧ c.lines.get? line.number = some line.hits := by
  simp only [classLines, List.mem_flatMap, List.mem_map, Prod.mk.injEq]
  constructor
  · rintro ⟨c, isClass, _, member, rfl, rfl⟩
    exact ⟨c, isClass, rfl, (Lines.mem_toList_iff _ _).mp member⟩
  · rintro ⟨c, isClass, rfl, listed⟩
    exact ⟨c, isClass, line, (Lines.mem_toList_iff _ _).mpr listed, rfl, rfl⟩

theorem mem_methodLines {key : Class.Key} {line : Line} :
    (key, line) ∈ report.methodLines ↔
      ∃ c ∈ report.classes, c.key = key ∧ line.hits ∈ countsOfMethods c.methods line.number := by
  simp only [methodLines, List.mem_flatMap, List.mem_map, Prod.mk.injEq]
  constructor
  · rintro ⟨c, isClass, method, isMethod, _, member, rfl, rfl⟩
    exact ⟨c, isClass, rfl, method, isMethod, (Lines.mem_toList_iff _ _).mp member⟩
  · rintro ⟨c, isClass, rfl, method, isMethod, listed⟩
    exact ⟨c, isClass, method, isMethod, line, (Lines.mem_toList_iff _ _).mpr listed, rfl, rfl⟩

/-! ## Totals are sums over classes -/

theorem countP_flatMap_eq {α β : Type} (p : β → Bool) (f : α → List β) (list : List α) :
    (list.flatMap f).countP p = list.foldr (fun a total => (f a).countP p + total) 0 := by
  induction list with
  | nil => rfl
  | cons a list ih =>
    rw [List.flatMap_cons, List.countP_append, ih]
    rfl

/-- The lines of classes are counted package by package, and class by class. -/
theorem countP_classLines (p : Class.Key × Line → Bool) (report : Report) :
    report.classLines.countP p =
      report.packages.foldr
        (fun package total =>
          package.classes.foldr
            (fun c total => (c.lines.toList.countP fun line => p (c.key, line)) + total) 0 + total)
        0 := by
  rw [classLines, classes, List.flatMap_assoc, countP_flatMap_eq]
  simp only [countP_flatMap_eq, List.countP_map]
  rfl

theorem countValid_eq_length (report : Report) : report.countValid = report.classLines.length := by
  rw [← List.countP_true, countP_classLines]
  simp only [List.countP_true]
  rfl

theorem countCovered_eq_countP (report : Report) :
    report.countCovered = report.classLines.countP fun entry => 0 < entry.2.hits := by
  rw [countP_classLines]
  rfl

/-! ## Classes that are told apart -/

omit [DecidableEq κ] in
/-- Each class has each of its lines once, so no two lines are at one place if owners tell the
classes apart. -/
theorem nodup_map_classLines {owner : Class.Key → κ}
    (distinct : (report.classes.map fun c => owner c.key).Nodup) :
    (report.classLines.map (placeOf owner)).Nodup := by
  have own : ∀ c : Class, (c.lines.toList.map fun line => (c.key, line)).map (placeOf owner) =
      c.lines.toList.map fun line => (⟨owner c.key, line.number⟩ : Place κ) := by
    intro c
    rw [List.map_map]
    rfl
  rw [classLines, List.map_flatMap, List.nodup_flatMap]
  simp only [own]
  constructor
  · -- a table lists each number once
    intro c _
    have numbers : (c.lines.toList.map (·.number)).Nodup :=
      List.pairwise_map.mpr (c.lines.ascending.imp Nat.ne_of_lt)
    refine List.Nodup.map_on ?_ numbers.of_map
    intro line member line' member' same
    exact List.inj_on_of_nodup_map numbers member member' (Place.mk.inj same).2
  · -- and no class has the owner of another
    refine (List.pairwise_map.mp distinct).imp fun apart place member member' => ?_
    obtain ⟨_, _, rfl⟩ := List.mem_map.mp member
    obtain ⟨_, _, same⟩ := List.mem_map.mp member'
    exact apart (Place.mk.inj same).1.symm

section Classes

variable (consistent : ∀ c ∈ report.classes, c.Consistent)
variable (distinct : (report.classes.map Class.key).Nodup)
include consistent distinct

/-- The places of lines of classes are those of lines of their methods. -/
theorem perm_places : (report.places id).Perm (report.classLines.map (placeOf id)) := by
  rw [places]
  refine (List.perm_ext_iff_of_nodup (nodup_eraseDups _)
    (nodup_map_classLines distinct)).mpr fun place => ?_
  rw [List.mem_eraseDups, List.mem_map, List.mem_map]
  constructor
  · rintro ⟨⟨key, line⟩, member, rfl⟩
    obtain ⟨c, isClass, rfl, counted⟩ := mem_methodLines.mp member
    have listed := ((consistent c isClass).lines line.number).isSome_iff.mpr ⟨_, counted⟩
    obtain ⟨hits, listed⟩ := Option.isSome_iff_exists.mp listed
    exact ⟨(c.key, ⟨line.number, hits⟩), mem_classLines.mpr ⟨c, isClass, rfl, listed⟩, rfl⟩
  · rintro ⟨⟨key, line⟩, member, rfl⟩
    obtain ⟨c, isClass, rfl, listed⟩ := mem_classLines.mp member
    have least := ((consistent c isClass).lines line.number line.hits).mp listed
    exact ⟨(c.key, line), mem_methodLines.mpr ⟨c, isClass, rfl, least.1⟩, rfl⟩

/-- A line of a class counts as executed if it is executed in every method that has it. -/
theorem executedAt_iff {entry : Class.Key × Line} (member : entry ∈ report.classLines) :
    report.ExecutedAt id (placeOf id entry) ↔ 0 < entry.2.hits := by
  obtain ⟨key, line⟩ := entry
  obtain ⟨c, isClass, rfl, listed⟩ := mem_classLines.mp member
  have least := ((consistent c isClass).lines line.number line.hits).mp listed
  constructor
  · intro executed
    exact executed (c.key, line) (mem_methodLines.mpr ⟨c, isClass, rfl, least.1⟩) rfl
  · rintro positive ⟨key, other⟩ member' same
    obtain ⟨d, isClass', rfl, counted⟩ := mem_methodLines.mp member'
    obtain ⟨sameKey, number⟩ := Place.mk.inj same
    -- the key is that of one class, so the class has the least count of both lines
    change other.number = line.number at number
    rw [List.inj_on_of_nodup_map distinct isClass' isClass sameKey, number] at counted
    exact Nat.lt_of_lt_of_le positive (least.2 counted)

theorem countValid_eq : report.countValid = (report.places id).length := by
  rw [countValid_eq_length, (perm_places consistent distinct).length_eq, List.length_map]

theorem countCovered_eq : report.countCovered = (report.coveredPlaces id).length := by
  have covered := (perm_places consistent distinct).countP_eq fun place =>
    decide (report.ExecutedAt id place)
  rw [coveredPlaces, ← List.countP_eq_length_filter, covered, List.countP_map,
    countCovered_eq_countP]
  refine List.countP_congr fun entry member => ?_
  simpa using (executedAt_iff consistent distinct member).symm

end Classes

/-! ## Other owners -/

/-- Lines of different classes are at different places. -/
def Separates (owner : Class.Key → κ) (report : Report) : Prop :=
  ∀ entry ∈ report.methodLines, ∀ other ∈ report.methodLines,
    placeOf owner entry = placeOf owner other → entry.1 = other.1

/-- A place with another owner is known from the place. -/
theorem places_eq_eraseDups_map (owner : Class.Key → κ) (report : Report) :
    report.places owner = ((report.places id).map (Place.map owner)).eraseDups := by
  rw [places, places, eraseDups_map_eraseDups, List.map_map]
  rfl

namespace Separates

variable {owner : Class.Key → κ} (separates : report.Separates owner)
include separates

omit [DecidableEq κ] in
theorem placeOf_eq_iff {entry other : Class.Key × Line} (member : entry ∈ report.methodLines)
    (member' : other ∈ report.methodLines) :
    placeOf owner entry = placeOf owner other ↔ placeOf id entry = placeOf id other := by
  constructor
  · intro same
    exact congrArg₂ Place.mk (separates entry member other member' same) (Place.mk.inj same).2
  · intro same
    exact congrArg (Place.map owner) same

/-- There is one place for each place of a line in a class. -/
theorem places_eq : report.places owner = (report.places id).map (Place.map owner) := by
  rw [places_eq_eraseDups_map]
  refine eraseDups_of_nodup (List.Nodup.map_on ?_ (nodup_eraseDups _))
  intro place member place' member' same
  obtain ⟨entry, isLine, rfl⟩ := List.mem_map.mp (List.mem_eraseDups.mp member)
  obtain ⟨other, isLine', rfl⟩ := List.mem_map.mp (List.mem_eraseDups.mp member')
  exact (separates.placeOf_eq_iff isLine isLine').mp same

/-- And the same of them are covered. -/
theorem coveredPlaces_eq :
    report.coveredPlaces owner = (report.coveredPlaces id).map (Place.map owner) := by
  rw [coveredPlaces, places_eq separates, List.filter_map, coveredPlaces]
  refine congrArg (List.map _) (List.filter_congr fun place member => ?_)
  obtain ⟨entry, isLine, rfl⟩ := List.mem_map.mp (List.mem_eraseDups.mp member)
  refine decide_eq_decide.mpr ⟨fun executed other isLine' same => ?_,
    fun executed other isLine' same => ?_⟩
  · exact executed other isLine' ((separates.placeOf_eq_iff isLine' isLine).mpr same)
  · exact executed other isLine' ((separates.placeOf_eq_iff isLine' isLine).mp same)

end Separates

/-- **Lines of different classes are at different places exactly if no place is lost.** -/
theorem length_places_eq_iff {owner : Class.Key → κ} :
    (report.places id).length = (report.places owner).length ↔ report.Separates owner := by
  constructor
  · intro same entry member other member' samePlace
    -- dropping what occurs again has dropped nothing, so the owners tell all places apart
    have distinct : ((report.places id).map (Place.map owner)).Nodup := by
      refine nodup_of_length_eraseDups ?_
      rw [← places_eq_eraseDups_map, List.length_map, same]
    have known : ∀ entry ∈ report.methodLines, placeOf id entry ∈ report.places id :=
      fun entry member => List.mem_eraseDups.mpr (List.mem_map_of_mem member)
    exact (Place.mk.inj (List.inj_on_of_nodup_map distinct (known entry member)
      (known other member') samePlace)).1
  · intro separates
    rw [separates.places_eq, List.length_map]

end Report

/-! ## The classes of sources -/

/-- The classes of a source are known by their names and its file. -/
theorem Source.map_key_classes (source : Source) (grouping : Grouping)
    (runs : List (List Block)) :
    (source.classes grouping runs).map Report.Class.key =
      (Report.classNames grouping source.file source.declarations).map fun name =>
        ⟨name, source.file⟩ := by
  rw [classes, List.map_map, Report.classesOf_eq, List.map_map,
    List.map_fst_zip Report.length_joinTables.ge]
  rfl

/-- The sources in the order of their packages. -/
def byPackage (sources : List Source) : List Source :=
  (sources.map (·.package)).eraseDups.flatMap fun name => sources.filter (·.package == name)

theorem mem_of_mem_byPackage {sources : List Source} {source : Source}
    (h : source ∈ byPackage sources) : source ∈ sources := by
  obtain ⟨_, _, member⟩ := List.mem_flatMap.mp h
  exact List.mem_of_mem_filter member

/-- A source is in one package. -/
theorem nodup_map_file_byPackage {sources : List Source}
    (distinct : (sources.map (·.file)).Nodup) : ((byPackage sources).map (·.file)).Nodup := by
  have once : (byPackage sources).Nodup := by
    refine List.nodup_flatMap.mpr ⟨fun name _ => distinct.of_map.filter _,
      (nodup_eraseDups _).imp ?_⟩
    intro name name' apart source member member'
    have named := beq_iff_eq.mp (List.mem_filter.mp member).2
    have named' := beq_iff_eq.mp (List.mem_filter.mp member').2
    exact apart (named.symm.trans named')
  refine List.Nodup.map_on (fun source member source' member' same => ?_) once
  exact List.inj_on_of_nodup_map distinct (mem_of_mem_byPackage member)
    (mem_of_mem_byPackage member') same

/-- Packages list the classes of their sources. -/
theorem flatMap_classes_packagesOf (grouping : Grouping) (sources : List Source)
    (runs : Source → List (List Block)) :
    (packagesOf grouping sources runs).flatMap (·.classes) =
      (byPackage sources).flatMap fun source => source.classes grouping (runs source) := by
  rw [packagesOf, byPackage, List.flatMap_map, List.flatMap_assoc]
  rfl

/-- No two classes are known by the same if no two sources are of one file. -/
theorem nodup_key_packagesOf {grouping : Grouping} {sources : List Source}
    {runs : Source → List (List Block)} (distinct : (sources.map (·.file)).Nodup) :
    (((packagesOf grouping sources runs).flatMap (·.classes)).map Report.Class.key).Nodup := by
  rw [flatMap_classes_packagesOf, List.map_flatMap, List.nodup_flatMap]
  simp only [Source.map_key_classes]
  constructor
  · intro source _
    refine Report.nodup_classNames.map fun name name' same => ?_
    exact (Report.Class.Key.mk.inj same).1
  · -- classes of different sources are told apart by their files
    refine (List.pairwise_map.mp (nodup_map_file_byPackage distinct)).imp ?_
    intro source source' apart key member member'
    obtain ⟨_, _, rfl⟩ := List.mem_map.mp member
    obtain ⟨_, _, same⟩ := List.mem_map.mp member'
    exact apart (Report.Class.Key.mk.inj same).2.symm

/-- A class that is listed is known by a name of its source and by its file. -/
theorem exists_source_of_mem_packagesOf {grouping : Grouping} {sources : List Source}
    {runs : Source → List (List Block)} {c : Report.Class}
    (h : c ∈ (packagesOf grouping sources runs).flatMap (·.classes)) :
    ∃ source ∈ sources, c.file = source.file ∧
      c.name ∈ Report.classNames grouping source.file source.declarations := by
  rw [flatMap_classes_packagesOf] at h
  obtain ⟨source, isSource, isClass⟩ := List.mem_flatMap.mp h
  have key : c.key ∈ (source.classes grouping (runs source)).map Report.Class.key :=
    List.mem_map_of_mem isClass
  rw [Source.map_key_classes] at key
  obtain ⟨name, isName, same⟩ := List.mem_map.mp key
  obtain ⟨rfl, file⟩ := Report.Class.Key.mk.inj same
  exact ⟨source, mem_of_mem_byPackage isSource, file.symm, isName⟩

/-! ## Conversions -/

namespace Conversion

variable {conversion : Conversion} {profiles : List Profile} {report : Report}

/-- No two sources are of one file, if different files have different names. -/
theorem Apart.nodup_file_sources (apart : conversion.Apart) (profiles : List Profile) :
    ((conversion.sources profiles).map (·.file)).Nodup := by
  refine List.Nodup.map_on ?_ (nodup_eraseDups _)
  intro source member source' member' same
  obtain ⟨file, _, found⟩ := List.mem_filterMap.mp (List.mem_eraseDups.mp member)
  obtain ⟨file', _, found'⟩ := List.mem_filterMap.mp (List.mem_eraseDups.mp member')
  cases apart found found' same
  exact Option.some.inj (found.symm.trans found')

/-- No two classes of a report are known by the same, if different files have different names. -/
theorem Apart.nodup_key_classes (apart : conversion.Apart)
    (h : (conversion.convert profiles).2 = .ok report) :
    (report.classes.map Report.Class.key).Nodup := by
  obtain ⟨_, rfl⟩ := (convert_eq_ok_iff apart).mp h
  exact nodup_key_packagesOf (apart.nodup_file_sources profiles)

/-- All classes of a report are consistent with their methods. -/
theorem consistent_classes (h : (conversion.convert profiles).2 = .ok report) :
    ∀ c ∈ report.classes, c.Consistent := by
  obtain ⟨taken, _, rfl⟩ := convert_eq_ok h
  intro c member
  obtain ⟨package, isPackage, isClass⟩ := List.mem_flatMap.mp member
  exact ((wellBuilt_recordAll (.empty conversion.timestamp) taken).packages package
    isPackage).classes c isClass

/-- If a file makes one class, lines of different classes are in different files. -/
theorem Apart.separates_byFile (apart : conversion.Apart) (byFile : conversion.grouping = .byFile)
    (h : (conversion.convert profiles).2 = .ok report) :
    report.Separates Report.Class.Key.file := by
  obtain ⟨_, rfl⟩ := (convert_eq_ok_iff apart).mp h
  have named : ∀ entry ∈ (conversion.reportOf profiles).methodLines,
      entry.1.name = Report.dotted entry.1.file := by
    rintro ⟨key, line⟩ member
    obtain ⟨c, isClass, rfl, _⟩ := Report.mem_methodLines.mp member
    obtain ⟨source, _, file, name⟩ := exists_source_of_mem_packagesOf isClass
    rw [byFile] at name
    obtain ⟨_, _, name⟩ := List.mem_map.mp (List.mem_eraseDups.mp name)
    show c.name = Report.dotted c.file
    rw [file]
    exact name.symm
  intro entry member other member' same
  have file : entry.1.file = other.1.file := (Report.Place.mk.inj same).1
  have name : entry.1.name = other.1.name := by
    rw [named entry member, named other member', file]
  exact congrArg₂ Report.Class.Key.mk name file

end Conversion

namespace Module

variable {module : Module} {files : Files} {ignore : Ignore} {grouping : Grouping}
variable {timestamp : Int} {profiles : List Profile} {report : Report}

/-- **What the totals count.**  A line counts once for each class that has it in a method, and it
counts as executed if it is executed in every method of the class that has it.  So lines count once
for their file exactly if no two classes of a file share a line, and in particular if a file makes
one class. -/
theorem convert_counts
    (h : ((module.conversion files ignore grouping timestamp).convert profiles).2 = .ok report) :
    report.linesValid = (report.places id).length ∧
      report.linesCovered = (report.coveredPlaces id).length ∧
      (report.linesValid = (report.places Report.Class.Key.file).length ↔
        report.Separates Report.Class.Key.file) ∧
      (report.Separates Report.Class.Key.file →
        report.linesCovered = (report.coveredPlaces Report.Class.Key.file).length) ∧
      (grouping = .byFile → report.Separates Report.Class.Key.file) := by
  have apart := module.apart_conversion files ignore grouping timestamp
  have consistent := Conversion.consistent_classes h
  have distinct := apart.nodup_key_classes h
  have totals : report.linesValid = report.countValid ∧
      report.linesCovered = report.countCovered := by
    obtain ⟨_, rfl⟩ := (Conversion.convert_eq_ok_iff apart).mp h
    exact ⟨rfl, rfl⟩
  have valid := totals.1.trans (Report.countValid_eq consistent distinct)
  have covered := totals.2.trans (Report.countCovered_eq consistent distinct)
  refine ⟨valid, covered, ?_, fun separates => ?_, fun byFile => apart.separates_byFile byFile h⟩
  · rw [valid]
    exact Report.length_places_eq_iff
  · rw [covered, separates.coveredPlaces_eq, List.length_map]

/-- The small module with one class for each file. -/
def wholeFiles : Conversion := { smallConversion with grouping := .byFile }

theorem convert_counts_small :
    ∃ report, (wholeFiles.convert smallProfiles).2 = .ok report ∧
      report.linesValid = 3 ∧ report.linesCovered = 2 ∧
      (report.places Report.Class.Key.file).length = 3 ∧
      (report.coveredPlaces Report.Class.Key.file).length = 2 := by
  obtain ⟨report, converted, totals⟩ :
      ∃ report, (wholeFiles.convert smallProfiles).2 = .ok report ∧
        (report.linesValid, report.linesCovered) = (3, 2) :=
    exists_eq_ok_of_map (by decide +kernel)
  obtain ⟨valid, covered⟩ := Prod.mk.inj totals
  obtain ⟨_, _, places, coveredPlaces, byFile⟩ := @convert_counts smallModule _ _ _ _ _ _ converted
  have separates := byFile rfl
  exact ⟨report, converted, valid, covered, (places.mpr separates).symm.trans valid,
    (coveredPlaces separates).symm.trans covered⟩

/-- A file with a function and a method on one line. -/
def sharedLine : Files.Snapshot where
  places := []
  contents := [("/m/a.go", .ok (bytesOf "package m\n\nfunc A() { a() }; func (t T) B() { b() }\n"))]
  listings := [("/m/", .ok ["a.go"])]

/-- The function is executed, and the method is not. -/
def sharedLineProfile : Profile :=
  ⟨"m/a.go", .count, [⟨⟨⟨3, 10⟩, ⟨3, 17⟩⟩, 1, 5⟩, ⟨⟨⟨3, 34⟩, ⟨3, 41⟩⟩, 1, 0⟩]⟩

/-- **A line of two classes counts twice.**  One line of the file is recorded, and one of the two
methods that have it is not executed, but the totals count two lines and one executed line. -/
theorem shared_line_counts_twice :
    ∃ report,
      ((smallModule.conversion sharedLine.files ⟨none, none, none, none, false⟩ .byType 0).convert
        [sharedLineProfile]).2 = .ok report ∧
      report.linesValid = 2 ∧ report.linesCovered = 1 ∧
      report.places Report.Class.Key.file = [⟨"a.go", 3⟩] ∧
      report.coveredPlaces Report.Class.Key.file = [] := by
  obtain ⟨report, converted, totals⟩ :
      ∃ report, ((smallModule.conversion sharedLine.files ⟨none, none, none, none, false⟩ .byType
          0).convert [sharedLineProfile]).2 = .ok report ∧
        (report.linesValid, report.linesCovered, report.places Report.Class.Key.file,
          report.coveredPlaces Report.Class.Key.file) = (2, 1, [⟨"a.go", 3⟩], []) :=
    exists_eq_ok_of_map (by decide +kernel)
  obtain ⟨valid, totals⟩ := Prod.mk.inj totals
  obtain ⟨covered, totals⟩ := Prod.mk.inj totals
  obtain ⟨places, coveredPlaces⟩ := Prod.mk.inj totals
  exact ⟨report, converted, valid, covered, places, coveredPlaces⟩

end Module

end GoCoverage
