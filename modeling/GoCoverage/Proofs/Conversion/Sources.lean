import GoCoverage.Proofs.Conversion.Found
import GoCoverage.Proofs.Conversion.Modules

/-! # The report of the sources

A report has its contributions sorted by the sources that they come from, and these are listed in
the order in which they were met first.  If contributions from one file come from one source
(`Coherent`), the report is a function of three things (`Report.ofSources`): the directories and the
sources, each in their order, and for each source the blocks of its runs.  So what does not change
these does not change the report. -/

namespace GoCoverage

open Go (Declaration)
open Profile (Block)
open Report (Grouping Package)

/-! ## Sources and their classes -/

namespace Source

/-- The lines of each declaration from the blocks of one run. -/
def tables (source : Source) (blocks : List Block) : List Lines :=
  scanBlocks (source.declarations.map (·.toSpan)) blocks

/-- The classes of the source, from the blocks of all its runs. -/
def classes (source : Source) (grouping : Grouping) (runs : List (List Block)) :
    List Report.Class :=
  let tables := Report.joinTables source.declarations.length (runs.map source.tables)
  (Report.classesOf source.file grouping (source.declarations.zip tables)).map Report.Class.refresh

/-- The classes of a source do not depend on the order of its runs, nor on how often a run
occurs. -/
theorem classes_congr (source : Source) (grouping : Grouping) {runs others : List (List Block)}
    (h : ∀ run, run ∈ runs ↔ run ∈ others) :
    source.classes grouping runs = source.classes grouping others := by
  have joined : Report.joinTable (runs.map source.tables) =
      Report.joinTable (others.map source.tables) := by
    refine funext (Report.joinTable_congr fun tables => ?_)
    simp only [List.mem_map, h]
  rw [classes, classes, Report.joinTables, Report.joinTables, joined]

end Source

/-- A package with the given classes and with their rate. -/
def Report.Package.ofClasses (name : String) (classes : List Report.Class) : Package :=
  Package.refresh { name := name, lineRate := 0, classes := classes }

theorem Report.Package.name_ofClasses (name : String) (classes : List Report.Class) :
    (Package.ofClasses name classes).name = name := rfl

/-- The packages of sources with the blocks of their runs. -/
def packagesOf (grouping : Grouping) (sources : List Source) (runs : Source → List (List Block)) :
    List Package :=
  (sources.map (·.package)).eraseDups.map fun name =>
    .ofClasses name
      ((sources.filter (·.package == name)).flatMap fun source =>
        source.classes grouping (runs source))

/-- Packages depend on what the runs of a source come to, and not on the runs. -/
theorem packagesOf_congr {grouping : Grouping} {sources : List Source}
    {runs others : Source → List (List Block)}
    (same : ∀ source ∈ sources, source.classes grouping (runs source) =
      source.classes grouping (others source)) :
    packagesOf grouping sources runs = packagesOf grouping sources others := by
  refine List.map_congr_left fun name _ => congrArg (Report.Package.ofClasses name) ?_
  exact List.flatMap_congr fun source member => same source (List.mem_of_mem_filter member)

/-- The report of sources with the blocks of their runs. -/
def Report.ofSources (timestamp : Int) (directories : List String) (grouping : Grouping)
    (sources : List Source) (runs : Source → List (List Block)) : Report :=
  { Report.empty timestamp with
    sources := directories
    packages := packagesOf grouping sources runs }.withTotals

namespace Report

variable (timestamp : Int) (directories : List String) (grouping : Grouping)
variable (sources : List Source) (runs : Source → List (List Block))

theorem sources_ofSources :
    (ofSources timestamp directories grouping sources runs).sources = directories := rfl

theorem packages_ofSources :
    (ofSources timestamp directories grouping sources runs).packages =
      packagesOf grouping sources runs := rfl

theorem linesValid_ofSources :
    (ofSources timestamp directories grouping sources runs).linesValid =
      (ofSources timestamp directories grouping sources runs).countValid := rfl

theorem linesCovered_ofSources :
    (ofSources timestamp directories grouping sources runs).linesCovered =
      (ofSources timestamp directories grouping sources runs).countCovered := rfl

end Report

/-! ## Contributions and their sources -/

/-- The source that a contribution comes from. -/
def Contribution.source (given : Contribution) : Source :=
  ⟨given.package, given.file, given.declarations⟩

/-- Contributions from one file come from one source. -/
def Coherent (kept : List Contribution) : Prop :=
  ∀ given ∈ kept, ∀ other ∈ kept, other.file = given.file → other.source = given.source

/-- The sources of contributions, in the order in which they occur first. -/
def sourcesOf (kept : List Contribution) : List Source := (kept.map (·.source)).eraseDups

/-- The blocks of the contributions from a source. -/
def runsOf (kept : List Contribution) (source : Source) : List (List Block) :=
  (kept.filter (·.source == source)).map (·.blocks)

variable {grouping : Grouping} {kept : List Contribution} {name : String}

theorem Coherent.filter (coherent : Coherent kept) (p : Contribution → Bool) :
    Coherent (kept.filter p) :=
  fun given member other member' =>
    coherent given (List.mem_of_mem_filter member) other (List.mem_of_mem_filter member')

theorem Coherent.agree (coherent : Coherent kept) : Agree kept :=
  fun given member other member' same =>
    congrArg Source.declarations (coherent given member other member' same)

/-! ## Packages -/

/-- A package that has got classes is up to date. -/
theorem Report.Package.addClasses_eq_ofClasses (package : Package) (classes : List Class) :
    package.addClasses classes =
      .ofClasses package.name (package.addClasses classes).classes := by
  have named : (package.addClasses classes).name = package.name := name_addClasses
  show Package.ofClasses (package.addClasses classes).name _ = _
  rw [named]
  rfl

/-- A package that has gathered something is up to date. -/
theorem Report.Package.gather_eq_ofClasses {own : List Contribution} (some : own ≠ []) :
    Package.gather grouping name own =
      .ofClasses name (Package.gather grouping name own).classes := by
  obtain ⟨others, last, rfl⟩ := (List.eq_nil_or_concat' own).resolve_left some
  have step : Package.gather grouping name (others ++ [last]) =
      (Package.gather grouping name others).addClasses (last.classes grouping) := by
    rw [gather, List.foldl_append]
    rfl
  have upToDate := addClasses_eq_ofClasses (Package.gather grouping name others)
    (last.classes grouping)
  rwa [name_gather, ← step] at upToDate

/-- The files of a package are those of its sources. -/
theorem eraseDups_file_eq (coherent : Coherent kept) (name : String) :
    ((kept.filter (·.package == name)).map (·.file)).eraseDups =
      ((sourcesOf kept).filter (·.package == name)).map (·.file) := by
  have files : (kept.filter (·.package == name)).map (·.file) =
      ((kept.map (·.source)).filter (·.package == name)).map (·.file) := by
    rw [List.filter_map, List.map_map]
    rfl
  rw [files, eraseDups_map_of_injective, eraseDups_filter, sourcesOf]
  intro source member source' member' same
  obtain ⟨given, isKept, rfl⟩ := List.mem_map.mp (List.mem_of_mem_filter member)
  obtain ⟨given', isKept', rfl⟩ := List.mem_map.mp (List.mem_of_mem_filter member')
  exact coherent given' isKept' given isKept same

/-- The runs of a file are those of its source. -/
theorem map_tables_filter_file (coherent : Coherent kept) {given : Contribution}
    (member : given ∈ kept) :
    ((kept.filter (·.package == given.package)).filter (·.file == given.file)).map (·.tables) =
      (runsOf kept given.source).map given.source.tables := by
  have same : ∀ other ∈ kept, (other.file == given.file && other.package == given.package) =
      (other.source == given.source) := by
    intro other member'
    rw [Bool.eq_iff_iff, Bool.and_eq_true, beq_iff_eq, beq_iff_eq, beq_iff_eq]
    constructor
    · rintro ⟨same, _⟩
      exact coherent given member other member' same
    · intro same
      exact ⟨congrArg Source.file same, congrArg Source.package same⟩
  rw [runsOf, List.map_map, List.filter_filter, List.filter_congr same]
  refine List.map_congr_left fun other member => ?_
  have same : other.source = given.source := beq_iff_eq.mp (List.mem_filter.mp member).2
  rw [Function.comp_apply, ← same]
  rfl

/-- What a package gathers are the classes of its sources. -/
theorem classes_gather_filter (coherent : Coherent kept) (name : String) :
    (Package.gather grouping name (kept.filter (·.package == name))).classes =
      ((sourcesOf kept).filter (·.package == name)).flatMap fun source =>
        source.classes grouping (runsOf kept source) := by
  have agree := (coherent.filter (·.package == name)).agree
  rw [Package.classes_gather_eq agree, eraseDups_file_eq coherent, List.flatMap_map]
  refine List.flatMap_congr fun source member => ?_
  obtain ⟨isSource, named⟩ := List.mem_filter.mp member
  obtain ⟨given, isKept, rfl⟩ := List.mem_map.mp (List.mem_eraseDups.mp isSource)
  obtain rfl : given.package = name := beq_iff_eq.mp named
  refine (map_joinedClass_keysIn agree (List.mem_filter.mpr ⟨isKept, named⟩)).trans ?_
  rw [map_tables_filter_file coherent isKept]
  rfl

/-! ## Reports -/

theorem Report.sources_record (report : Report) (grouping : Grouping)
    (given? : Option Contribution) : (report.record grouping given?).sources = report.sources := by
  cases given? <;> rfl

namespace Conversion

variable (conversion : Conversion) {taken : List (Module.Package × Option Contribution)}

/-- **The packages of a report are those of its sources.** -/
theorem packages_recordAll_eq (timestamp : Int) (coherent : Coherent (taken.filterMap (·.2))) :
    (conversion.recordAll (.empty timestamp) taken).packages =
      packagesOf conversion.grouping (sourcesOf (taken.filterMap (·.2)))
        (runsOf (taken.filterMap (·.2))) := by
  rw [packages_recordAll, packagesOf, sourcesOf, eraseDups_map_eraseDups, List.map_map]
  refine List.map_congr_left fun name member => ?_
  obtain ⟨given, isKept, named⟩ := List.mem_map.mp (List.mem_eraseDups.mp member)
  have some : (taken.filterMap (·.2)).filter (·.package == name) ≠ [] :=
    List.ne_nil_of_mem (List.mem_filter.mpr ⟨isKept, beq_iff_eq.mpr named⟩)
  rw [Package.gather_eq_ofClasses some, classes_gather_filter coherent, sourcesOf]

/-- Recording lists directories in the order in which they are met first. -/
theorem sources_recordAll (timestamp : Int)
    (taken : List (Module.Package × Option Contribution)) :
    (conversion.recordAll (.empty timestamp) taken).sources =
      (taken.map (·.1.moduleRoot)).eraseDups := by
  induction taken using List.reverseRecOn with
  | nil => rfl
  | append_singleton taken t ih =>
    rw [recordAll, List.foldl_append, List.foldl_cons, List.foldl_nil, Report.sources_record,
      Report.sources_addSource, ← recordAll, ih, List.map_append, List.map_singleton,
      eraseDups_concat]
    simp only [List.mem_eraseDups]

/-- Recording changes nothing but the directories and the packages. -/
theorem recordAll_with (report : Report) (taken : List (Module.Package × Option Contribution))
    (directories : List String) (packages : List Package) :
    { conversion.recordAll report taken with sources := directories, packages := packages } =
      { report with sources := directories, packages := packages } := by
  induction taken generalizing report with
  | nil => rfl
  | cons t taken ih =>
    refine (ih _).trans ?_
    show { (report.addSource t.1.moduleRoot).record conversion.grouping t.2 with
      sources := directories, packages := packages } = _
    rw [Report.addSource]
    split <;> cases t.2 <;> rfl

/-- **A report that has been recorded is that of its sources.** -/
theorem withTotals_recordAll (timestamp : Int) (coherent : Coherent (taken.filterMap (·.2))) :
    (conversion.recordAll (.empty timestamp) taken).withTotals =
      .ofSources timestamp (taken.map (·.1.moduleRoot)).eraseDups conversion.grouping
        (sourcesOf (taken.filterMap (·.2))) (runsOf (taken.filterMap (·.2))) := by
  have lists := conversion.recordAll_with (.empty timestamp) taken
    (conversion.recordAll (.empty timestamp) taken).sources
    (conversion.recordAll (.empty timestamp) taken).packages
  rw [sources_recordAll, packages_recordAll_eq conversion timestamp coherent] at lists
  rw [Report.ofSources, ← lists, ← sources_recordAll conversion timestamp,
    ← packages_recordAll_eq conversion timestamp coherent]

/-! ## Conversions -/

/-- Different files have different names. -/
def Apart : Prop :=
  ∀ ⦃file other : String⦄ ⦃source source' : Source⦄, conversion.source? file = some source →
    conversion.source? other = some source' → source.file = source'.file → file = other

/-- The directories of the files of profiles, in the order in which they occur first. -/
def directories (profiles : List Profile) : List String :=
  ((profiles.map (·.file)).filterMap conversion.root?).eraseDups

/-- The sources of the files of profiles, in the order in which they occur first. -/
def sources (profiles : List Profile) : List Source :=
  ((profiles.map (·.file)).filterMap conversion.source?).eraseDups

/-- The blocks of the profiles of a source. -/
def runs (profiles : List Profile) (source : Source) : List (List Block) :=
  (profiles.filter fun profile => conversion.source? profile.file == some source).map (·.blocks)

/-- The report of the sources of profiles. -/
def reportOf (profiles : List Profile) : Report :=
  .ofSources conversion.timestamp (conversion.directories profiles) conversion.grouping
    (conversion.sources profiles) (conversion.runs profiles)

variable {conversion} {profiles : List Profile}

/-- A contribution is made by a profile of its source. -/
theorem contribution?_eq_some {profile : Profile} {given : Contribution} :
    conversion.contribution? profile = some given ↔
      conversion.source? profile.file = some given.source ∧ profile.blocks = given.blocks := by
  rw [contribution?]
  constructor
  · intro h
    obtain ⟨source, found, rfl⟩ := Option.map_eq_some_iff.mp h
    exact ⟨found, rfl⟩
  · rintro ⟨found, same⟩
    rw [found, same]
    rfl

/-- What profiles contribute is coherent if different files have different names. -/
theorem Apart.coherent (apart : conversion.Apart) (profiles : List Profile) :
    Coherent (profiles.filterMap conversion.contribution?) := by
  intro given member other member' same
  obtain ⟨profile, _, contributes⟩ := List.mem_filterMap.mp member
  obtain ⟨profile', _, contributes'⟩ := List.mem_filterMap.mp member'
  have found := (contribution?_eq_some.mp contributes).1
  have found' := (contribution?_eq_some.mp contributes').1
  have file : profile'.file = profile.file := apart found' found same
  rw [file] at found'
  exact Option.some.inj (found'.symm.trans found)

theorem sourcesOf_contributions (profiles : List Profile) :
    sourcesOf (profiles.filterMap conversion.contribution?) = conversion.sources profiles := by
  rw [sourcesOf, sources, List.map_filterMap, List.filterMap_map]
  congr 1
  refine List.filterMap_congr fun profile _ => ?_
  rw [contribution?, Option.map_map]
  exact congrFun Option.map_id _

theorem runsOf_contributions (profiles : List Profile) (source : Source) :
    runsOf (profiles.filterMap conversion.contribution?) source =
      conversion.runs profiles source := by
  rw [runsOf, runs]
  induction profiles with
  | nil => rfl
  | cons profile profiles ih =>
    rw [List.filterMap_cons, contribution?, List.filter_cons]
    cases conversion.source? profile.file with
    | none => exact ih
    | some other =>
      have same : ((other.contribution profile.blocks).source == source) =
          (some other == some source) := rfl
      rw [Option.map_some, List.filter_cons, same]
      split
      · rw [List.map_cons, List.map_cons, ih]
        rfl
      · exact ih

/-- **The report of a conversion is that of the sources of its profiles**, if different files have
different names. -/
theorem convert_eq_reportOf (apart : conversion.Apart) (profiles : List Profile) :
    (conversion.convert profiles).2 =
      match (profiles.map (·.file)).findSome? conversion.failure? with
      | some failure => .error failure
      | none => .ok (conversion.reportOf profiles) := by
  have coherent := apart.coherent profiles
  rw [← filterMap_taken?] at coherent
  have runs : runsOf (profiles.filterMap conversion.contribution?) = conversion.runs profiles :=
    funext (runsOf_contributions profiles)
  rw [convert_eq, withTotals_recordAll conversion _ coherent, map_root_taken?, filterMap_taken?,
    sourcesOf_contributions, runs]
  rfl

/-- A conversion succeeds if a source is found, or left out, for each profile. -/
theorem convert_eq_ok_iff (apart : conversion.Apart) {report : Report} :
    (conversion.convert profiles).2 = .ok report ↔
      (∀ profile ∈ profiles, conversion.failure? profile.file = none) ∧
        report = conversion.reportOf profiles := by
  rw [convert_eq_reportOf apart]
  have every : (profiles.map (·.file)).findSome? conversion.failure? = none ↔
      ∀ profile ∈ profiles, conversion.failure? profile.file = none := by
    rw [List.findSome?_eq_none_iff, List.forall_mem_map]
  rw [← every]
  cases (profiles.map (·.file)).findSome? conversion.failure? with
  | some failure => simp
  | none => simpa using eq_comm

/-- **Two conversions come to the same** if the files of their profiles occur first in the same
order and the runs of each source come to the same classes. -/
theorem convert_congr (apart : conversion.Apart) {others : List Profile}
    (files : (profiles.map (·.file)).eraseDups = (others.map (·.file)).eraseDups)
    (classes : ∀ {file : String} {source : Source}, conversion.source? file = some source →
      source.classes conversion.grouping (conversion.runs profiles source) =
        source.classes conversion.grouping (conversion.runs others source)) :
    (conversion.convert profiles).2 = (conversion.convert others).2 := by
  have failures : (profiles.map (·.file)).findSome? conversion.failure? =
      (others.map (·.file)).findSome? conversion.failure? := by
    rw [← findSome?_eraseDups, files, findSome?_eraseDups]
  have sources : conversion.sources profiles = conversion.sources others :=
    eraseDups_filterMap_congr files conversion.source?
  have directories : conversion.directories profiles = conversion.directories others :=
    eraseDups_filterMap_congr files conversion.root?
  have packages : packagesOf conversion.grouping (conversion.sources others)
        (conversion.runs profiles) =
      packagesOf conversion.grouping (conversion.sources others) (conversion.runs others) := by
    refine packagesOf_congr fun source member => ?_
    obtain ⟨file, _, found⟩ := List.mem_filterMap.mp (List.mem_eraseDups.mp member)
    exact classes found
  rw [convert_eq_reportOf apart, convert_eq_reportOf apart, failures, reportOf, reportOf, sources,
    directories, Report.ofSources, packages, ← Report.ofSources]

end Conversion

/-! ## The files of a module -/

/-- **A file of a module is known by its name**, which is its place in the module. -/
theorem Module.apart_conversion (module : Module) (files : Files) (ignore : Ignore)
    (grouping : Grouping) (timestamp : Int) :
    (module.conversion files ignore grouping timestamp).Apart := by
  intro file other source source' found found' same
  obtain ⟨package, _, resolved, named, _⟩ := Conversion.exists_of_source?_eq_some _ found
  obtain ⟨package', _, resolved', named', _⟩ := Conversion.exists_of_source?_eq_some _ found'
  exact file_eq_of_relativeName? resolved resolved' named (same ▸ named')

end GoCoverage
