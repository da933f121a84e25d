import GoCoverage.Proofs.Conversion.Gathered

/-! # The report of a module

Where the packages of a conversion are those of a module, a file is named by the module's path and
its place in the module.  So profiles with the same place name the same file, their contributions
agree (`agree_of_takes`), and the report has, file by file, just what the files contribute
(`Report.Gathers`): nothing is lost, nothing is there twice, and no class holds methods of two
files. -/

namespace GoCoverage

/-! ## Names of files -/

theorem Files.Path.eq_of_strip? {start text rest : String} (h : strip? start text = some rest) :
    text.toList = start.toList ++ rest.toList := by
  rw [strip?] at h
  split at h
  · rename_i starts
    obtain ⟨others, split⟩ := List.isPrefixOf_iff_prefix.mp starts
    cases h
    rw [← split, String.toList_ofList, List.drop_left]
  · cases h

namespace Module

variable {module : Module} {files : Files} {ignore : Ignore} {grouping : Report.Grouping}
variable {timestamp : Int} {profile other : Profile} {profiles : List Profile}

/-- A file of a package is known by its place in the module. -/
theorem Package.relativeName?_injective (package : Package) {file file' name : String}
    (h : package.relativeName? file = some name) (h' : package.relativeName? file' = some name) :
    file = file' := by
  obtain ⟨rest, start, slash⟩ := Option.bind_eq_some_iff.mp h
  obtain ⟨rest', start', slash'⟩ := Option.bind_eq_some_iff.mp h'
  apply String.toList_inj.mp
  rw [Files.Path.eq_of_strip? start, Files.Path.eq_of_strip? start',
    Files.Path.eq_of_strip? slash, Files.Path.eq_of_strip? slash']

/-- A package that is found is that of a directory with the names that are listed there. -/
theorem exists_eq_packageOf {file : String} {package : Package}
    (h : module.resolve files file = .ok package) :
    ∃ directory names, package = module.packageOf directory names := by
  rw [resolve] at h
  split at h
  · cases h
  · split at h <;> cases h
    exact ⟨_, _, rfl⟩

theorem modulePath_of_resolve {file : String} {package : Package}
    (h : module.resolve files file = .ok package) : package.modulePath = module.path := by
  obtain ⟨_, _, rfl⟩ := exists_eq_packageOf h
  rfl

theorem moduleRoot_of_resolve {file : String} {package : Package}
    (h : module.resolve files file = .ok package) : package.moduleRoot = module.root := by
  obtain ⟨_, _, rfl⟩ := exists_eq_packageOf h
  rfl

/-- **A file of a module is known by its place**, whatever package each of its profiles is resolved
to. -/
theorem file_eq_of_relativeName? {package package' : Package} {file file' name : String}
    (resolved : module.resolve files file = .ok package)
    (resolved' : module.resolve files file' = .ok package')
    (named : package.relativeName? file = some name)
    (named' : package'.relativeName? file' = some name) : file = file' := by
  have path := (modulePath_of_resolve resolved).trans (modulePath_of_resolve resolved').symm
  refine package'.relativeName?_injective ?_ named'
  rw [Package.relativeName?, ← path]
  exact named

/-- Two profiles of one file contribute the same declarations. -/
theorem declarations_of_takes {package package' : Package} {given given' : Contribution}
    (takes : (module.conversion files ignore grouping timestamp).Takes profile package
      (some given))
    (takes' : (module.conversion files ignore grouping timestamp).Takes other package'
      (some given'))
    (same : given'.file = given.file) : given'.declarations = given.declarations := by
  cases takes with
  | mapped resolved named _ found read _ parsed =>
    cases takes' with
    | mapped resolved' named' _ found' read' _ parsed' =>
      cases same
      have file : other.file = profile.file :=
        file_eq_of_relativeName? resolved' resolved named' named
      -- one file, so all that is looked up for the two profiles is the same
      rw [file] at resolved' found'
      cases resolved.symm.trans resolved'
      cases found.symm.trans found'
      cases read.symm.trans read'
      exact Option.some.inj (parsed'.symm.trans parsed)

/-- What the files of a module contribute agrees. -/
theorem agree_of_takes {taken : List (Package × Option Contribution)}
    (all : List.Forall₂
      (fun profile t => (module.conversion files ignore grouping timestamp).Takes profile t.1 t.2)
      profiles taken) : Agree (taken.filterMap (·.2)) := by
  have source : ∀ given ∈ taken.filterMap (·.2), ∃ profile package,
      (module.conversion files ignore grouping timestamp).Takes profile package (some given) := by
    intro given member
    obtain ⟨t, isTaken, contributes⟩ := List.mem_filterMap.mp member
    obtain ⟨profile, _, takes⟩ := Conversion.exists_takes_of_mem all isTaken
    exact ⟨profile, t.1, contributes ▸ takes⟩
  intro given member other isOther same
  obtain ⟨profile, package, takes⟩ := source given member
  obtain ⟨profile', package', takes'⟩ := source other isOther
  exact declarations_of_takes takes takes' same

end Module

/-! ## The report -/

/-- The classes that a file has in a report.  They are what any of its runs makes of the file, but
for the lines: a declaration has the lines that it has in some run, each with its smallest count. -/
structure Contribution.Joined (given : Contribution) (grouping : Report.Grouping)
    (own : List Contribution) (classes : List Report.Class) : Prop where
  outlines : classes.map Report.Class.outline = (given.classes grouping).map Report.Class.outline
  ofFile : ∀ c ∈ classes, c.file = given.file
  tables : ∃ tables : List Lines, tables.length = given.declarations.length ∧
    classes = (Report.classesOf given.file grouping (given.declarations.zip tables)).map
      Report.Class.refresh ∧
    ∀ (i : Nat) (lines : Lines), tables[i]? = some lines → lines.Least fun number =>
      {hits | ∃ run ∈ own, run.file = given.file ∧
        (run.tables[i]?).bind (·.get? number) = some hits}

/-- What a package gathers for a file are the joined classes of the file. -/
theorem joined_map_joinedClass {grouping : Report.Grouping} {own : List Contribution}
    {given : Contribution} (agree : Agree own) (member : given ∈ own) :
    given.Joined grouping own
      ((keysIn grouping own given.file).map (joinedClass grouping own)) := by
  rw [map_joinedClass_keysIn agree member]
  refine ⟨?_, ?_, ?_⟩
  · rw [List.map_map]
    refine Eq.trans (List.map_congr_left fun c _ => Report.Class.outline_refresh c) ?_
    exact Report.map_outline_classesOf Report.length_joinTables given.length_tables
  · intro c isClass
    obtain ⟨before, isBefore, rfl⟩ := List.mem_map.mp isClass
    show before.file = given.file
    rw [(Report.eq_classNamed_of_mem isBefore).2]
    rfl
  · refine ⟨_, Report.length_joinTables, rfl, fun i lines found => ?_⟩
    rw [Report.eq_joinTable_of_getElem? found]
    refine (Report.least_joinTable _ i).congr fun number => ?_
    ext hits
    simp [and_assoc]

/-- A report has what has been contributed to it: packages and files in the order in which they
occur first among the contributions, and each file with its joined classes. -/
structure Report.Gathers (report : Report) (grouping : Grouping) (kept : List Contribution) :
    Prop where
  packages : report.packages.map (·.name) = (kept.map (·.package)).eraseDups
  classes : ∀ package ∈ report.packages, ∃ parts : String → List Report.Class,
    package.classes =
      ((kept.filter (·.package == package.name)).map (·.file)).eraseDups.flatMap parts ∧
    ∀ given ∈ kept.filter (·.package == package.name),
      given.Joined grouping (kept.filter (·.package == package.name)) (parts given.file)

namespace Module

variable {module : Module} {files : Files} {ignore : Ignore} {grouping : Report.Grouping}
variable {timestamp : Int} {profiles : List Profile} {report : Report}

/-- **A report loses, repeats and mixes nothing.**  Its packages are those of the profiles that are
not left out, in the order in which they occur first.  The classes of a package are those of its
files, in the order in which the files occur first, and those of a file are the classes that any
profile of the file makes, but with the lines of all its profiles. -/
theorem convert_gathers
    (h : ((module.conversion files ignore grouping timestamp).convert profiles).2 = .ok report) :
    ∃ taken : List (Package × Option Contribution),
      List.Forall₂
        (fun profile t => (module.conversion files ignore grouping timestamp).Takes profile t.1 t.2)
        profiles taken ∧
      report.Gathers grouping (taken.filterMap (·.2)) := by
  obtain ⟨taken, all, rfl⟩ := Conversion.convert_eq_ok h
  have packages := Conversion.packages_recordAll (module.conversion files ignore grouping timestamp)
    timestamp taken
  refine ⟨taken, all, ⟨?_, ?_⟩⟩
  · -- the totals leave the packages alone
    refine (congrArg (List.map _) packages).trans ?_
    rw [List.map_map]
    exact (List.map_congr_left fun name _ => Report.Package.name_gather _ name _).trans
      (List.map_id _)
  · intro package member
    replace member := packages ▸ member
    obtain ⟨name, _, rfl⟩ := List.mem_map.mp member
    rw [Report.Package.name_gather]
    have agree : Agree ((taken.filterMap (·.2)).filter (·.package == name)) := by
      intro given isOwn other isOther
      exact agree_of_takes all given (List.mem_of_mem_filter isOwn) other
        (List.mem_of_mem_filter isOther)
    exact ⟨_, Report.Package.classes_gather_eq agree name, fun given isOwn =>
      joined_map_joinedClass agree isOwn⟩

theorem convert_gathers_small :
    ∃ report, (smallConversion.convert smallProfiles).2 = .ok report ∧
      report.packages.map (·.name) = ["m", "m/b"] ∧
      ∃ taken : List (Package × Option Contribution),
        List.Forall₂ (fun profile t => smallConversion.Takes profile t.1 t.2) smallProfiles taken ∧
        report.Gathers .byType (taken.filterMap (·.2)) := by
  obtain ⟨report, h, names⟩ := convert_smallProfiles
  exact ⟨report, h, names, convert_gathers h⟩

end Module

end GoCoverage
