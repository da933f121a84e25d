import GoCoverage.Proofs.Conversion.Sources

/-! # Files that are left out

Whether a file is left out is found out in two stages: its name is looked at first, and its text is
only read if the name does not decide.  The package of the file is looked up before either, so its
directory is listed in any case.  Both stages together decide as one look at name and text does
(`Ignore.staged_eq_leavesOut`), and nothing else is done with a file that is left out.  So a
conversion that leaves files out is one that keeps all files, of the profiles of the other files,
but for the directories that it lists (`Conversion.convert_keepingAll`). -/

namespace GoCoverage

open Profile (Block)
open Report (Grouping)

/-! ## One look and two stages -/

namespace Ignore

/-- Nothing is left out. -/
def nothing : Ignore where
  paths := none
  directories := none
  names := none
  content := none
  generated := false

theorem ofSettings_none : ofSettings .none = .ok nothing := rfl

variable (ignore : Ignore)

theorem needsContent_of_matchesContent {content : String} (h : ignore.matchesContent content) :
    ignore.needsContent := by
  rw [matchesContent, Bool.or_eq_true, Bool.and_eq_true] at h
  rw [needsContent, Bool.or_eq_true]
  rcases h with ⟨generated, _⟩ | listed
  · exact .inr generated
  · cases given : ignore.content with
    | none =>
      rw [given] at listed
      cases listed
    | some pattern => exact .inl rfl

/-- **The two stages decide as one look does.** -/
theorem staged_eq_leavesOut (path content : String) :
    (ignore.matchesPath path || (ignore.needsContent && ignore.matchesContent content)) =
      ignore.leavesOut path content := by
  rw [leavesOut]
  cases matched : ignore.matchesContent content with
  | false => rw [Bool.and_false]
  | true => rw [ignore.needsContent_of_matchesContent matched, Bool.and_true]

end Ignore

/-- The note says that a file was left out. -/
def Note.LeftOut (note : Note) (file : String) : Prop :=
  note = .ignoredPath file ∨ note = .ignoredContent file

/-- The report without the list of its directories. -/
def Report.withoutSources (report : Report) : Report := { report with sources := [] }

namespace Conversion

variable (conversion : Conversion)

/-- The conversion that keeps all files. -/
def keepingAll : Conversion := { conversion with ignore := .nothing }

/-- The text of a file of a package, if it is found there and can be read. -/
def text? (package : Module.Package) (file : String) : Option String :=
  (package.findSource? file).bind fun path => (conversion.files.readText path).toOption

/-- A file is left out: by its name and its text, or by its name alone if it has no text that can be
read. -/
def leavesOut (file : String) : Bool :=
  (conversion.resolve file).toOption.any fun package =>
    (package.relativeName? file).any fun name =>
      (conversion.text? package file).elim (conversion.ignore.matchesPath name)
        (conversion.ignore.leavesOut name)

/-! ## One file -/

section Step

variable {conversion} {report : Report} {profile : Profile} {package : Module.Package}
variable {name path text : String}

section Named

variable (resolved : conversion.resolve profile.file = .ok package)
variable (named : package.relativeName? profile.file = some name)
include resolved named

theorem leavesOut_eq : conversion.leavesOut profile.file =
    (conversion.text? package profile.file).elim (conversion.ignore.matchesPath name)
      (conversion.ignore.leavesOut name) := by
  rw [leavesOut, resolved]
  show (package.relativeName? profile.file).any _ = _
  rw [named]
  rfl

theorem leavesOut_of_matchesPath (matched : conversion.ignore.matchesPath name) :
    conversion.leavesOut profile.file := by
  rw [leavesOut_eq resolved named]
  cases conversion.text? package profile.file with
  | none => exact matched
  | some text =>
    rw [Option.elim_some, Ignore.leavesOut, matched, Bool.true_or]

theorem leavesOut_eq_of_read (found : package.findSource? profile.file = some path)
    (read : conversion.files.readText path = .ok text) :
    conversion.leavesOut profile.file = conversion.ignore.leavesOut name text := by
  rw [leavesOut_eq resolved named, text?, found, Option.bind_some, read]
  rfl

/-- The name is looked at first. -/
theorem addProfile_of_matchesPath (matched : conversion.ignore.matchesPath name) :
    conversion.addProfile report profile =
      .ok (report.addSource package.moduleRoot, .ignoredPath name) := by
  rw [addProfile, resolved]
  dsimp only [bind, Except.bind]
  rw [named]
  dsimp only
  rw [if_pos matched]
  rfl

/-- If the name does not decide, the text is looked at next. -/
theorem addProfile_of_read (kept : ¬ conversion.ignore.matchesPath name)
    (found : package.findSource? profile.file = some path)
    (read : conversion.files.readText path = .ok text) :
    conversion.addProfile report profile =
      if conversion.ignore.needsContent && conversion.ignore.matchesContent text then
        .ok (report.addSource package.moduleRoot, .ignoredContent name)
      else
        match Report.classes? name text profile.blocks conversion.grouping with
        | none => .error (.unparsableSource name)
        | some classes =>
          .ok ((report.addSource package.moduleRoot).changePackage package.id
              (·.addClasses classes),
            .mapped name profile.blocks.length classes.length) := by
  rw [addProfile, resolved]
  dsimp only [bind, Except.bind]
  rw [named]
  dsimp only
  rw [if_neg kept, found]
  dsimp only
  rw [read]
  rfl

/-- **A file with a text is left out exactly if one look at its name and its text says so.** -/
theorem leavesOut_iff_of_read (found : package.findSource? profile.file = some path)
    (read : conversion.files.readText path = .ok text) :
    conversion.ignore.leavesOut name text ↔
      ∃ after note, conversion.addProfile report profile = .ok (after, note) ∧
        note.LeftOut name := by
  rw [← Ignore.staged_eq_leavesOut, Bool.or_eq_true]
  by_cases matched : conversion.ignore.matchesPath name
  · rw [addProfile_of_matchesPath resolved named matched]
    exact iff_of_true (.inl matched) ⟨_, _, rfl, .inl rfl⟩
  · rw [addProfile_of_read resolved named matched found read]
    by_cases matched' : conversion.ignore.needsContent && conversion.ignore.matchesContent text
    · rw [if_pos matched']
      exact iff_of_true (.inr matched') ⟨_, _, rfl, .inr rfl⟩
    · rw [if_neg matched']
      refine iff_of_false (not_or_intro matched matched') ?_
      -- the file is mapped, or it is no source text
      rintro ⟨after, note, added, leftOut⟩
      split at added <;> cases added
      rcases leftOut with leftOut | leftOut <;> cases leftOut

end Named

/-- **Nothing is done with a file that is left out**, but that its directory is listed. -/
theorem addProfile_of_leavesOut (report : Report) (h : conversion.leavesOut profile.file) :
    ∃ package note, conversion.resolve profile.file = .ok package ∧
      conversion.addProfile report profile = .ok (report.addSource package.moduleRoot, note) := by
  obtain ⟨package, resolved, decided⟩ := (Option.any_eq_true _ _).mp h
  obtain ⟨name, named, _⟩ := (Option.any_eq_true _ _).mp decided
  rw [toOption_eq_some] at resolved
  by_cases matched : conversion.ignore.matchesPath name
  · exact ⟨package, _, resolved, addProfile_of_matchesPath resolved named matched⟩
  · rw [leavesOut_eq resolved named] at h
    cases isText : conversion.text? package profile.file with
    | none =>
      rw [isText] at h
      exact absurd h matched
    | some text =>
      rw [isText, Option.elim_some, ← Ignore.staged_eq_leavesOut, Bool.or_eq_true] at h
      obtain ⟨path, found, read⟩ := Option.bind_eq_some_iff.mp isText
      rw [toOption_eq_some] at read
      refine ⟨package, .ignoredContent name, resolved, ?_⟩
      rw [addProfile_of_read resolved named matched found read, if_pos (h.resolve_left matched)]

/-- **A file that is kept is taken as if all files were kept.** -/
theorem addProfile_of_not_leavesOut (h : ¬ conversion.leavesOut profile.file) :
    conversion.addProfile report profile = conversion.keepingAll.addProfile report profile := by
  rw [addProfile, addProfile]
  show conversion.resolve profile.file >>= _ = conversion.resolve profile.file >>= _
  cases resolved : conversion.resolve profile.file with
  | error failure => rfl
  | ok package =>
    dsimp only [bind, Except.bind]
    cases named : package.relativeName? profile.file with
    | none => rfl
    | some name =>
      have matched := mt (leavesOut_of_matchesPath resolved named) h
      have matched' : ¬ conversion.keepingAll.ignore.matchesPath name := Bool.false_ne_true
      dsimp only
      rw [if_neg matched, if_neg matched']
      cases found : package.findSource? profile.file with
      | none => rfl
      | some path =>
        dsimp only [keepingAll]
        cases read : conversion.files.readText path with
        | error fault => rfl
        | ok text =>
          rw [leavesOut_eq_of_read resolved named found read, ← Ignore.staged_eq_leavesOut,
            Bool.or_eq_true, not_or] at h
          dsimp only [Except.mapError]
          rw [if_neg h.2]
          rfl

end Step

/-! ## The whole run -/

theorem withoutSources_addSource (report : Report) (directory : String) :
    (report.addSource directory).withoutSources = report.withoutSources := by
  rw [Report.addSource]
  split <;> rfl

/-- What is recorded does not depend on the directories that are listed. -/
theorem withoutSources_recordFound {report other : Report}
    (same : report.withoutSources = other.withoutSources) (found : Found) (blocks : List Block) :
    (conversion.recordFound report found blocks).withoutSources =
      (conversion.recordFound other found blocks).withoutSources := by
  have record : ∀ report : Report,
      (conversion.recordFound report found blocks).withoutSources =
        (report.withoutSources).record conversion.grouping (found.contribution? blocks) := by
    intro report
    rw [recordFound, ← withoutSources_addSource report found.package.moduleRoot]
    cases found.contribution? blocks <;> rfl
  rw [record, record, same]

variable {conversion}

/-- A run that leaves files out is a run on the profiles of the files that are kept. -/
theorem addProfiles_keepingAll {report other : Report} (profiles : List Profile)
    (same : report.withoutSources = other.withoutSources) :
    (conversion.addProfiles report profiles).2.map Report.withoutSources =
      (conversion.keepingAll.addProfiles other
        (profiles.filter fun profile => !conversion.leavesOut profile.file)).2.map
          Report.withoutSources := by
  induction profiles generalizing report other with
  | nil => exact congrArg Except.ok same
  | cons profile profiles ih =>
    by_cases leftOut : conversion.leavesOut profile.file
    · obtain ⟨package, note, _, added⟩ := addProfile_of_leavesOut report leftOut
      rw [addProfiles, added, List.filter_cons_of_neg (by simpa using leftOut)]
      exact ih ((withoutSources_addSource report package.moduleRoot).trans same)
    · rw [addProfiles, addProfile_of_not_leavesOut leftOut,
        List.filter_cons_of_pos (by simpa using leftOut), addProfiles]
      -- both runs take the file, and they find the same for it
      have step := conversion.keepingAll.map_fst_addProfile report profile
      have step' := conversion.keepingAll.map_fst_addProfile other profile
      cases found : conversion.keepingAll.find profile.file with
      | error failure =>
        rw [found] at step step'
        rw [map_eq_error.mp step, map_eq_error.mp step']
      | ok found' =>
        rw [found] at step step'
        obtain ⟨⟨_, note⟩, added, rfl⟩ := map_eq_ok.mp step
        obtain ⟨⟨_, note'⟩, added', rfl⟩ := map_eq_ok.mp step'
        rw [added, added']
        exact ih (conversion.keepingAll.withoutSources_recordFound same found' profile.blocks)

theorem map_convert (profiles : List Profile) :
    (conversion.convert profiles).2.map Report.withoutSources =
      ((conversion.addProfiles (.empty conversion.timestamp) profiles).2.map
        Report.withoutSources).map Report.withTotals := by
  rw [convert]
  cases conversion.addProfiles (.empty conversion.timestamp) profiles with
  | mk notes result => cases result <;> rfl

/-- **A conversion that leaves files out is one that keeps all files**, of the profiles of the other
files, but for the directories that it lists. -/
theorem convert_keepingAll (profiles : List Profile) :
    (conversion.convert profiles).2.map Report.withoutSources =
      (conversion.keepingAll.convert
        (profiles.filter fun profile => !conversion.leavesOut profile.file)).2.map
          Report.withoutSources := by
  rw [map_convert, map_convert, addProfiles_keepingAll profiles rfl]
  rfl

/-- No file that is left out makes a conversion fail. -/
theorem exists_kept_of_convert_eq_error {profiles : List Profile} {failure : Failure}
    (h : (conversion.convert profiles).2 = .error failure) :
    ∃ profile ∈ profiles, ¬ conversion.leavesOut profile.file ∧
      (conversion.convert [profile]).2 = .error failure := by
  obtain ⟨before, bad, after, rfl, _, fails⟩ := convert_eq_error_iff.mp h
  refine ⟨bad, List.mem_append_right before List.mem_cons_self, fun leftOut => ?_, fails⟩
  obtain ⟨package, note, _, added⟩ :=
    addProfile_of_leavesOut (.empty conversion.timestamp) leftOut
  rw [convert_singleton_eq_error_iff, ← addProfile_eq_error_iff] at fails
  cases added.symm.trans fails

end Conversion

/-! ## The files of a module -/

namespace Module

variable {module : Module} {files : Files} {ignore : Ignore} {grouping : Grouping}
variable {timestamp : Int} {profiles : List Profile} {report : Report}

/-- A conversion lists the root of the module, unless there are no profiles. -/
theorem sources_convert
    (h : ((module.conversion files ignore grouping timestamp).convert profiles).2 = .ok report) :
    report.sources = if profiles = [] then [] else [module.root] := by
  obtain ⟨taken, all, rfl⟩ := Conversion.convert_eq_ok h
  refine (Conversion.sources_recordAll _ timestamp taken).trans ?_
  have roots : taken.map (·.1.moduleRoot) = List.replicate profiles.length module.root := by
    rw [List.eq_replicate_iff, List.length_map, all.length_eq]
    refine ⟨rfl, fun root member => ?_⟩
    obtain ⟨t, isTaken, rfl⟩ := List.mem_map.mp member
    obtain ⟨profile, _, takes⟩ := Conversion.exists_takes_of_mem all isTaken
    exact moduleRoot_of_resolve takes.resolved
  rw [roots]
  cases profiles with
  | nil => rfl
  | cons profile profiles => exact eraseDups_replicate_succ profiles.length module.root

/-- **Leaving files out is filtering.**  A conversion comes to the same as one that keeps all files,
of the profiles whose files are not left out, but it lists the root of the module if there are any
profiles.  Its two looks at a file decide as one does.  A file that is left out by its name is not
read, and no file that is left out is parsed: whatever there is, its directory is listed and nothing
else is done.  So it is a file that is kept that makes a conversion fail. -/
theorem convert_leaves_out (module : Module) (files : Files) (ignore : Ignore) (grouping : Grouping)
    (timestamp : Int) :
    let conversion := module.conversion files ignore grouping timestamp
    Ignore.ofSettings .none = .ok .nothing ∧
      (∀ profiles,
        (conversion.convert profiles).2.map Report.withoutSources =
          ((module.conversion files .nothing grouping timestamp).convert
            (profiles.filter fun profile => !conversion.leavesOut profile.file)).2.map
              Report.withoutSources) ∧
      (∀ profiles report, (conversion.convert profiles).2 = .ok report →
        report.sources = if profiles = [] then [] else [module.root]) ∧
      (∀ report profile package name, module.resolve files profile.file = .ok package →
        package.relativeName? profile.file = some name →
        (∀ path text, package.findSource? profile.file = some path →
          files.readText path = .ok text →
          conversion.leavesOut profile.file = ignore.leavesOut name text ∧
          (ignore.leavesOut name text ↔
            ∃ after note, conversion.addProfile report profile = .ok (after, note) ∧
              note.LeftOut name)) ∧
        (ignore.matchesPath name → ∀ read,
          (module.conversion { files with read } ignore grouping timestamp).addProfile report
            profile = .ok (report.addSource module.root, .ignoredPath name))) ∧
      (∀ report profile, conversion.leavesOut profile.file →
        ∃ note, conversion.addProfile report profile =
          .ok (report.addSource module.root, note)) ∧
      ∀ profiles failure, (conversion.convert profiles).2 = .error failure →
        ∃ profile ∈ profiles, ¬ conversion.leavesOut profile.file ∧
          (conversion.convert [profile]).2 = .error failure := by
  intro conversion
  refine ⟨Ignore.ofSettings_none, Conversion.convert_keepingAll, fun _ _ => sources_convert, ?_, ?_,
    fun _ _ => Conversion.exists_kept_of_convert_eq_error⟩
  · intro report profile package name resolved named
    constructor
    · intro path text found read
      refine ⟨Conversion.leavesOut_eq_of_read resolved named found read, ?_⟩
      show conversion.ignore.leavesOut name text ↔ _
      exact Conversion.leavesOut_iff_of_read resolved named found read
    · intro matched read
      rw [← moduleRoot_of_resolve resolved]
      -- a package is looked up without reading files
      exact Conversion.addProfile_of_matchesPath resolved named matched
  · intro report profile leftOut
    obtain ⟨package, note, resolved, added⟩ := Conversion.addProfile_of_leavesOut report leftOut
    exact ⟨note, moduleRoot_of_resolve resolved ▸ added⟩

/-- The generated file cannot be read, and it is left out by its name. -/
theorem convert_leaves_out_small :
    ∃ report other, (smallConversion.convert smallProfiles).2 = .ok report ∧
      (smallConversion.keepingAll.convert
        (smallProfiles.filter (·.file != "m/g/c_gen.go"))).2 = .ok other ∧
      report.withoutSources = other.withoutSources ∧ report.sources = ["/m"] := by
  obtain ⟨_, same, sources, _⟩ := convert_leaves_out smallModule smallFiles.files
    ⟨none, none, Pattern.ofText? "_gen", none, false⟩ .byType 0
  obtain ⟨report, converted, _⟩ := convert_smallProfiles
  have kept : smallProfiles.filter (fun profile => !smallConversion.leavesOut profile.file) =
      smallProfiles.filter (·.file != "m/g/c_gen.go") := by decide +kernel
  have filtered := same smallProfiles
  rw [← smallConversion, kept, converted] at filtered
  obtain ⟨other, converted', same⟩ := map_eq_ok.mp filtered.symm
  exact ⟨report, other, converted, converted', same.symm, sources _ report converted⟩

end Module

end GoCoverage
