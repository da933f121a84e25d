import GoCoverage.Conversion
import GoCoverage.Files.Snapshot
import GoCoverage.Proofs.Outcome
import GoCoverage.Proofs.Report.Classes

/-! # What a conversion takes from its profiles

A profile comes to one of three things (`Conversion.Takes`): its file is left out by its path, or by
its content, or it contributes its declarations and blocks.  This depends on its file and not on the
report that there is so far: a step of the conversion records what is found for the file, or fails
as the search does (`map_fst_addProfile`).  So a conversion that succeeds has recorded what all
profiles came to, one after the other (`convert_eq_ok`). -/

namespace GoCoverage

open Go (Declaration)
open Profile (Block)
open Report (Grouping Package)

/-! ## Contributions -/

namespace Report.Package

variable {package : Package} {classes : List Class}

theorem name_addClasses : (package.addClasses classes).name = package.name := by
  show (classes.foldl _ package).name = package.name
  refine keyOf_foldl Package.name ?_ classes package
  exact fun _ _ => rfl

/-- Classes are joined with those of their name and file one after the other. -/
theorem classes_addClasses :
    (package.addClasses classes).classes =
      classes.foldl
        (fun known c =>
          changeOrAdd (·.key == c.key) (.empty c.name c.file) (fun k => (k.merge c).refresh) known)
        package.classes := by
  show (classes.foldl _ package).classes = _
  induction classes generalizing package with
  | nil => rfl
  | cons c classes ih =>
    rw [List.foldl_cons, List.foldl_cons, ih, classes_changeClass]
    rfl

end Report.Package

/-- A source file of the module: the package it is in, its name, and its declarations. -/
structure Source where
  package : String
  /-- The name of the file, relative to the module's root. -/
  file : String
  declarations : List Declaration
deriving DecidableEq

/-- What the file of a profile contributes to a report. -/
structure Contribution where
  /-- The path that the package of the file is imported by. -/
  package : String
  /-- The name of the file, relative to the module's root. -/
  file : String
  declarations : List Declaration
  /-- The blocks of the profile. -/
  blocks : List Block

namespace Contribution

/-- The lines of each declaration. -/
def tables (given : Contribution) : List Lines :=
  scanBlocks (given.declarations.map (·.toSpan)) given.blocks

/-- The classes that the file makes. -/
def classes (given : Contribution) (grouping : Grouping) : List Report.Class :=
  Report.classesOf given.file grouping (given.declarations.zip given.tables)

end Contribution

/-- What the source contributes with some blocks. -/
def Source.contribution (source : Source) (blocks : List Block) : Contribution :=
  ⟨source.package, source.file, source.declarations, blocks⟩

/-- The report with a contribution, if there is one. -/
def Report.record (report : Report) (grouping : Grouping) : Option Contribution → Report
  | none => report
  | some given => report.changePackage given.package (·.addClasses (given.classes grouping))

namespace Conversion

variable {conversion : Conversion} {profile : Profile} {profiles : List Profile}

/-- What a profile comes to: the package of its file, and what the file contributes unless it is
left out. -/
inductive Takes (conversion : Conversion) (profile : Profile) :
    Module.Package → Option Contribution → Prop
  /-- The file is left out because of its path. -/
  | ignoredPath {package : Module.Package} {file : String}
      (resolved : conversion.resolve profile.file = .ok package)
      (named : package.relativeName? profile.file = some file)
      (ignored : conversion.ignore.matchesPath file) : Takes conversion profile package none
  /-- The file is left out because of its content. -/
  | ignoredContent {package : Module.Package} {file path source : String}
      (resolved : conversion.resolve profile.file = .ok package)
      (named : package.relativeName? profile.file = some file)
      (kept : ¬ conversion.ignore.matchesPath file)
      (found : package.findSource? profile.file = some path)
      (read : conversion.files.readText path = .ok source)
      (ignored : conversion.ignore.needsContent && conversion.ignore.matchesContent source) :
      Takes conversion profile package none
  /-- The file is in the report. -/
  | mapped {package : Module.Package} {file path source : String} {declarations : List Declaration}
      (resolved : conversion.resolve profile.file = .ok package)
      (named : package.relativeName? profile.file = some file)
      (kept : ¬ conversion.ignore.matchesPath file)
      (found : package.findSource? profile.file = some path)
      (read : conversion.files.readText path = .ok source)
      (kept' : ¬ (conversion.ignore.needsContent && conversion.ignore.matchesContent source))
      (parsed : Go.declarations? source = some declarations) :
      Takes conversion profile package (some ⟨package.id, file, declarations, profile.blocks⟩)

theorem Takes.resolved {package : Module.Package} {given : Option Contribution}
    (takes : conversion.Takes profile package given) :
    conversion.resolve profile.file = .ok package := by
  cases takes <;> assumption

/-- What is found for a file: the package that holds it, and the source unless it is left out. -/
structure Found where
  package : Module.Package
  source : Option Source

/-- What the file contributes with some blocks. -/
def Found.contribution? (found : Found) (blocks : List Block) : Option Contribution :=
  found.source.map (·.contribution blocks)

section Find

variable (conversion : Conversion)

/-- Looks for a file. -/
def find (file : String) : Except Failure Found := do
  let package ← conversion.resolve file
  match package.relativeName? file with
  | none => .error (.packageNotFound file)
  | some name =>
    if conversion.ignore.matchesPath name then return ⟨package, none⟩
    else
      match package.findSource? file with
      | none => .error (.packageNotFound file)
      | some path =>
        let source ← (conversion.files.readText path).mapError (Failure.unreadable path)
        if conversion.ignore.needsContent && conversion.ignore.matchesContent source then
          return ⟨package, none⟩
        else
          match Go.declarations? source with
          | none => .error (.unparsableSource name)
          | some declarations => return ⟨package, some ⟨package.id, name, declarations⟩⟩

/-- The report with what was found for a profile. -/
def recordFound (report : Report) (found : Found) (blocks : List Block) : Report :=
  (report.addSource found.package.moduleRoot).record conversion.grouping
    (found.contribution? blocks)

/-- **A step records what is found for the file of the profile, or fails as the search does.** -/
theorem map_fst_addProfile (report : Report) (profile : Profile) :
    (conversion.addProfile report profile).map Prod.fst =
      (conversion.find profile.file).map fun found =>
        conversion.recordFound report found profile.blocks := by
  rw [addProfile, find]
  cases conversion.resolve profile.file with
  | error failure => rfl
  | ok package =>
    dsimp only [bind, Except.bind]
    cases package.relativeName? profile.file with
    | none => rfl
    | some name =>
      by_cases ignored : conversion.ignore.matchesPath name
      · simp only [ignored, if_true]
        rfl
      · simp only [ignored, if_false, Bool.false_eq_true]
        cases package.findSource? profile.file with
        | none => rfl
        | some path =>
          dsimp only
          cases (conversion.files.readText path).mapError (Failure.unreadable path) with
          | error failure => rfl
          | ok source =>
            dsimp only
            split
            · rfl
            · rw [Report.classes?]
              cases Go.declarations? source <;> rfl

end Find

/-- What is found for the file of a profile is what the profile comes to. -/
theorem takes_of_find {found : Found} (h : conversion.find profile.file = .ok found) :
    conversion.Takes profile found.package (found.contribution? profile.blocks) := by
  obtain ⟨package, resolved, h⟩ := bind_eq_ok.mp h
  -- what can go wrong is taken in the order of the search, and each time `h` is refuted
  cases named : package.relativeName? profile.file with
  | none =>
    rw [named] at h
    cases h
  | some name =>
    rw [named] at h
    dsimp only at h
    split at h
    · rename_i ignored
      cases h
      exact .ignoredPath resolved named ignored
    · rename_i kept
      cases isSource : package.findSource? profile.file with
      | none =>
        rw [isSource] at h
        cases h
      | some path =>
        rw [isSource] at h
        obtain ⟨text, read, h⟩ := bind_eq_ok.mp h
        rw [mapError_eq_ok] at read
        split at h
        · rename_i ignored
          cases h
          exact .ignoredContent resolved named kept isSource read ignored
        · rename_i kept'
          cases parsed : Go.declarations? text with
          | none =>
            rw [parsed] at h
            cases h
          | some declarations =>
            rw [parsed] at h
            cases h
            exact .mapped resolved named kept isSource read kept' parsed

/-- **A step that succeeds records what the profile comes to**, and changes nothing else but the
list of directories. -/
theorem addProfile_eq_ok {report after : Report} {note : Note}
    (h : conversion.addProfile report profile = .ok (after, note)) :
    ∃ package given, conversion.Takes profile package given ∧
      after = (report.addSource package.moduleRoot).record conversion.grouping given := by
  have step : (conversion.find profile.file).map (conversion.recordFound report · profile.blocks) =
      .ok after := by
    rw [← map_fst_addProfile, h]
    rfl
  obtain ⟨found, isFound, rfl⟩ := map_eq_ok.mp step
  exact ⟨found.package, found.contribution? profile.blocks, takes_of_find isFound, rfl⟩

/-- The report with what several profiles came to. -/
def recordAll (conversion : Conversion) (report : Report)
    (taken : List (Module.Package × Option Contribution)) : Report :=
  taken.foldl (fun report t => (report.addSource t.1.moduleRoot).record conversion.grouping t.2)
    report

/-- **A run that succeeds has taken all profiles in turn.** -/
theorem addProfiles_eq_ok {report after : Report}
    (h : (conversion.addProfiles report profiles).2 = .ok after) :
    ∃ taken, List.Forall₂ (fun profile t => conversion.Takes profile t.1 t.2) profiles taken ∧
      after = conversion.recordAll report taken := by
  induction profiles generalizing report with
  | nil =>
    cases h
    exact ⟨[], .nil, rfl⟩
  | cons profile profiles ih =>
    rw [addProfiles] at h
    cases step : conversion.addProfile report profile with
    | error failure =>
      rw [step] at h
      cases h
    | ok pair =>
      obtain ⟨next, note⟩ := pair
      rw [step] at h
      obtain ⟨package, given, takes, rfl⟩ := addProfile_eq_ok step
      obtain ⟨taken, all, rfl⟩ := ih h
      exact ⟨(package, given) :: taken, .cons takes all, rfl⟩

/-- What has been taken has been taken from a profile. -/
theorem exists_takes_of_mem {taken : List (Module.Package × Option Contribution)}
    (all : List.Forall₂ (fun profile t => conversion.Takes profile t.1 t.2) profiles taken)
    {t : Module.Package × Option Contribution} (member : t ∈ taken) :
    ∃ profile ∈ profiles, conversion.Takes profile t.1 t.2 := by
  induction all with
  | nil => cases member
  | cons takes _ ih =>
    rcases List.mem_cons.mp member with rfl | member
    · exact ⟨_, List.mem_cons_self, takes⟩
    · obtain ⟨profile, isProfile, takes⟩ := ih member
      exact ⟨profile, List.mem_cons_of_mem _ isProfile, takes⟩

/-- The report of a conversion that succeeds. -/
theorem convert_eq_ok {report : Report} (h : (conversion.convert profiles).2 = .ok report) :
    ∃ taken, List.Forall₂ (fun profile t => conversion.Takes profile t.1 t.2) profiles taken ∧
      report = (conversion.recordAll (.empty conversion.timestamp) taken).withTotals := by
  rw [convert] at h
  cases run : conversion.addProfiles (.empty conversion.timestamp) profiles with
  | mk notes result =>
    rw [run] at h
    cases result with
    | error failure => cases h
    | ok last =>
      cases h
      obtain ⟨taken, all, rfl⟩ := addProfiles_eq_ok (congrArg Prod.snd run)
      exact ⟨taken, all, rfl⟩

end Conversion

/-! ## The profiles of a module -/

/-- How the profiles of a module are turned into a report. -/
def Module.conversion (module : Module) (files : Files) (ignore : Ignore) (grouping : Grouping)
    (timestamp : Int) : Conversion where
  resolve := module.resolve files
  files := files
  ignore := ignore
  grouping := grouping
  timestamp := timestamp

/-- A module with a file in its root, one in a directory, and a generated one in another. -/
def smallModule : Module := ⟨"/m", "m"⟩

/-- The bytes of a text without characters beyond the first 128. -/
def bytesOf (text : String) : List UInt8 := text.toList.map fun c => c.toNat.toUInt8

/-- The files of the module. -/
def smallFiles : Files.Snapshot where
  places := []
  contents := [("/m/a.go", .ok (bytesOf "func A(){}\nfunc (t *T) B(){}")),
    ("/m/b/c.go", .ok (bytesOf "func (t T) C(){}"))]
  listings := [("/m/", .ok ["a.go"]), ("/m/b", .ok ["c.go"]), ("/m/g", .ok ["c_gen.go"])]

/-- Generated files are left out by their names, and classes are made by type. -/
def smallConversion : Conversion :=
  smallModule.conversion smallFiles.files ⟨none, none, Pattern.ofText? "_gen", none, false⟩
    .byType 0

/-- The first file comes twice, with another file and a generated one in between. -/
def smallProfiles : List Profile :=
  [⟨"m/a.go", .count, [⟨⟨⟨1, 8⟩, ⟨2, 18⟩⟩, 2, 4⟩]⟩,
    ⟨"m/b/c.go", .count, [⟨⟨⟨1, 10⟩, ⟨1, 17⟩⟩, 1, 0⟩]⟩,
    ⟨"m/g/c_gen.go", .count, []⟩,
    ⟨"m/a.go", .count, [⟨⟨⟨1, 8⟩, ⟨1, 11⟩⟩, 1, 2⟩]⟩]

/-- The profiles make two packages. -/
theorem convert_smallProfiles :
    ∃ report, (smallConversion.convert smallProfiles).2 = .ok report ∧
      report.packages.map (·.name) = ["m", "m/b"] :=
  exists_eq_ok_of_map (by decide +kernel)

end GoCoverage
