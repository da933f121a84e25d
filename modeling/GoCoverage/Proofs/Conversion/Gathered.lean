import GoCoverage.Proofs.Attribution.Scan
import GoCoverage.Proofs.Conversion.Run
import GoCoverage.Proofs.Report.Runs

/-! # What a report gathers

The packages of a report are those of the contributions, and the classes of a package are those of
its files, each in the order in which they were met first (`packages_recordAll`,
`classes_gather_eq`).  For this it matters that contributions agree: two that come from one file
have the same declarations. -/

namespace GoCoverage

open Go (Declaration)
open Report (Grouping Package classNames classNamed joinTables)

variable {grouping : Grouping} {own : List Contribution} {given : Contribution}

/-! ## Packages -/

/-- A package with the classes of several contributions. -/
def Report.Package.gather (grouping : Grouping) (name : String) (own : List Contribution) :
    Package :=
  own.foldl (fun package given => package.addClasses (given.classes grouping)) (.empty name)

/-- Recording only touches the packages of contributions, one after the other. -/
theorem Conversion.packages_recordAll_foldl (conversion : Conversion) (report : Report)
    (taken : List (Module.Package × Option Contribution)) :
    (conversion.recordAll report taken).packages =
      (taken.filterMap (·.2)).foldl
        (fun packages given =>
          changeOrAdd (·.name == given.package) (.empty given.package)
            (·.addClasses (given.classes conversion.grouping)) packages)
        report.packages := by
  induction taken generalizing report with
  | nil => rfl
  | cons t taken ih =>
    obtain ⟨package, given?⟩ := t
    refine (ih _).trans ?_
    cases given? with
    | none =>
      rw [List.filterMap_cons]
      show List.foldl _ (report.addSource _).packages _ = _
      rw [Report.packages_addSource]
    | some given =>
      rw [List.filterMap_cons, List.foldl_cons]
      show List.foldl _ (changeOrAdd _ _ _ (report.addSource _).packages) _ = _
      rw [Report.packages_addSource]

/-- **The packages are those of the contributions**, in the order in which they were met first, and
each gathers its own contributions. -/
theorem Conversion.packages_recordAll (conversion : Conversion) (timestamp : Int)
    (taken : List (Module.Package × Option Contribution)) :
    (conversion.recordAll (.empty timestamp) taken).packages =
      ((taken.filterMap (·.2)).map (·.package)).eraseDups.map fun name =>
        .gather conversion.grouping name ((taken.filterMap (·.2)).filter (·.package == name)) := by
  rw [packages_recordAll_foldl]
  exact foldl_changeOrAdd Contribution.package Package.name Package.empty
    (fun package given => package.addClasses (given.classes conversion.grouping))
    (fun _ => rfl) (fun _ _ => Package.name_addClasses) _

theorem Report.Package.name_gather (grouping : Grouping) (name : String)
    (own : List Contribution) : (Package.gather grouping name own).name = name :=
  keyOf_foldl Package.name (fun _ _ => name_addClasses) own (.empty name)

/-! ## Classes -/

/-- The class that is made from all classes with a key. -/
def joinedClass (grouping : Grouping) (own : List Contribution) (key : Report.Class.Key) :
    Report.Class :=
  ((own.flatMap (·.classes grouping)).filter (·.key == key)).foldl
    (fun known c => (known.merge c).refresh) (.empty key.name key.file)

/-- A package has the classes of its contributions, joined by name and file. -/
theorem Report.Package.classes_gather (grouping : Grouping) (name : String)
    (own : List Contribution) :
    (Package.gather grouping name own).classes =
      ((own.flatMap (·.classes grouping)).map Report.Class.key).eraseDups.map
        (joinedClass grouping own) := by
  have flat : (Package.gather grouping name own).classes =
      (own.flatMap (·.classes grouping)).foldl
        (fun known c =>
          changeOrAdd (·.key == c.key) (.empty c.name c.file) (fun k => (k.merge c).refresh) known)
        [] := by
    rw [gather]
    induction own using List.reverseRecOn with
    | nil => rfl
    | append_singleton own given ih =>
      rw [List.foldl_append, List.foldl_cons, List.foldl_nil, classes_addClasses, ih,
        List.flatMap_append, List.foldl_append, List.flatMap_singleton]
  rw [flat]
  exact foldl_changeOrAdd Report.Class.key Report.Class.key (fun key => .empty key.name key.file)
    (fun known c => (known.merge c).refresh) (fun _ => rfl) key_merge_refresh _

/-- Contributions from one file have the same declarations. -/
def Agree (own : List Contribution) : Prop :=
  ∀ given ∈ own, ∀ other ∈ own, other.file = given.file → other.declarations = given.declarations

theorem Contribution.length_tables (given : Contribution) :
    given.tables.length = given.declarations.length := by
  rw [tables, length_scanBlocks, List.length_map]

/-- The classes that a contribution makes are known by their names and its file. -/
theorem Contribution.map_key_classes (given : Contribution) (grouping : Grouping) :
    (given.classes grouping).map Report.Class.key =
      (classNames grouping given.file given.declarations).map fun name => ⟨name, given.file⟩ := by
  rw [classes, Report.classesOf_eq, List.map_map, List.map_fst_zip given.length_tables.ge]
  rfl

/-- The classes with a name that the runs of a file make. -/
theorem filter_key_classes (agree : Agree own) (member : given ∈ own) {name : String}
    (isName : name ∈ classNames grouping given.file given.declarations) :
    (own.flatMap (·.classes grouping)).filter (·.key == ⟨name, given.file⟩) =
      ((own.filter (·.file == given.file)).map (·.tables)).map fun tables =>
        classNamed grouping given.file (given.declarations.zip tables) name := by
  rw [List.map_map]
  refine filter_flatMap_eq_map fun other isOther => ?_
  by_cases same : other.file = given.file
  · -- a run of the file makes one class with the name
    rw [if_pos (by simpa using same), Contribution.classes, Report.classesOf_eq,
      List.map_fst_zip other.length_tables.ge, same, agree given member other isOther same,
      List.filter_map]
    have byName : ((·.key == ⟨name, given.file⟩) ∘
        classNamed grouping given.file (given.declarations.zip other.tables)) = (· == name) := by
      funext other
      rw [Bool.eq_iff_iff]
      simp [Report.Class.key, classNamed, Report.Class.empty]
    rw [byName, filter_beq_of_nodup Report.nodup_classNames isName]
    rfl
  · -- classes of other files are known by their files
    rw [if_neg (by simpa using same), List.filter_eq_nil_iff]
    intro c isClass key
    have ofOther : c.file = other.file := by
      rw [(Report.eq_classNamed_of_mem isClass).2]
      rfl
    have key : c.key = ⟨name, given.file⟩ := by simpa using key
    exact same (ofOther.symm.trans (Report.Class.Key.mk.inj key).2)

/-- The declarations of a file. -/
def declarationsIn (own : List Contribution) (file : String) : List Declaration :=
  ((own.find? (·.file == file)).map (·.declarations)).getD []

theorem declarationsIn_eq (agree : Agree own) (member : given ∈ own) :
    declarationsIn own given.file = given.declarations := by
  rw [declarationsIn]
  cases found : own.find? (·.file == given.file) with
  | none => exact absurd (List.find?_eq_none.mp found given member) (by simp)
  | some other =>
    exact agree given member other (List.mem_of_find?_eq_some found)
      (by simpa using List.find?_some found)

/-- What the classes of a file are known by in a package. -/
def keysIn (grouping : Grouping) (own : List Contribution) (file : String) :
    List Report.Class.Key :=
  (classNames grouping file (declarationsIn own file)).map fun name => ⟨name, file⟩

/-- **The classes of a package are those of its files**, in the order in which the files were met
first. -/
theorem Report.Package.classes_gather_eq (agree : Agree own) (name : String) :
    (Package.gather grouping name own).classes =
      (own.map (·.file)).eraseDups.flatMap fun file =>
        (keysIn grouping own file).map (joinedClass grouping own) := by
  have keys : (own.flatMap (·.classes grouping)).map Report.Class.key =
      (own.map (·.file)).flatMap (keysIn grouping own) := by
    rw [List.map_flatMap, List.flatMap_map]
    refine List.flatMap_congr fun given member => ?_
    rw [given.map_key_classes, keysIn, declarationsIn_eq agree member]
  have distinct : ∀ file, (keysIn grouping own file).Nodup := by
    intro file
    refine Report.nodup_classNames.map ?_
    intro name other same
    exact (Report.Class.Key.mk.inj same).1
  have owned : ∀ file, ∀ key ∈ keysIn grouping own file, key.file = file := by
    intro file key member
    obtain ⟨name, _, rfl⟩ := List.mem_map.mp member
    rfl
  rw [classes_gather, keys, eraseDups_flatMap owned distinct, List.map_flatMap]

/-- **The classes of a file are those of its joined tables.** -/
theorem map_joinedClass_keysIn (agree : Agree own) (member : given ∈ own) :
    (keysIn grouping own given.file).map (joinedClass grouping own) =
      (Report.classesOf given.file grouping
        (given.declarations.zip
          (joinTables given.declarations.length
            ((own.filter (·.file == given.file)).map (·.tables))))).map Report.Class.refresh := by
  rw [keysIn, declarationsIn_eq agree member, Report.classesOf_eq, List.map_map, List.map_map,
    List.map_fst_zip Report.length_joinTables.ge]
  refine List.map_congr_left fun name isName => ?_
  show joinedClass grouping own ⟨name, given.file⟩ = _
  rw [joinedClass, filter_key_classes agree member isName]
  refine Report.foldl_merge_classNamed ?_ ?_
  · have found : given ∈ own.filter (·.file == given.file) :=
      List.mem_filter.mpr ⟨member, by simp⟩
    simpa using List.ne_nil_of_mem found
  · intro tables isTables
    obtain ⟨other, isOther, rfl⟩ := List.mem_map.mp isTables
    obtain ⟨isOther, same⟩ := List.mem_filter.mp isOther
    rw [other.length_tables, agree given member other isOther (by simpa using same)]

end GoCoverage
