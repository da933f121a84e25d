import GoCoverage.Command.Coverage
import GoCoverage.Proofs.Conversion.Found
import GoCoverage.Proofs.Profile.Entries

/-! # What goes wrong first

A report is made in stages: the patterns are looked at, then the module, then the profile, and then
the files of the profile one after the other.  A stage is only come to if all before it have
succeeded, so what is reported is what goes wrong first (`Command.FirstTrouble`), and nothing that
comes later can change it.  In the last stage nothing that came earlier can change it either: a
profile fails in a list as it fails alone, because a step looks for its file without looking at the
report (`Conversion.convert_eq_error_iff`). -/

namespace GoCoverage

/-! ## Patterns -/

namespace Ignore

/-- A text is a pattern. -/
def compiles (text : String) : Bool := (Pattern.ofText? text).isSome

/-- The texts that are given as patterns, in the order in which they are looked at. -/
def Settings.patterns (settings : Settings) : List String :=
  [settings.paths, settings.directories, settings.names, settings.content].flatMap Option.toList

/-- A step fails with the first of some texts that is no pattern, and succeeds if all are
patterns. -/
def Blames {α : Type} (texts : List String) (outcome : Except Failure α) : Prop :=
  match texts.find? fun text => !compiles text with
  | some text => outcome = .error (.invalidPattern text)
  | none => ∃ a, outcome = .ok a

namespace Blames

variable {α β : Type} {texts others : List String} {outcome : Except Failure α}
variable {next : α → Except Failure β}

theorem pure (a : α) : Blames [] (.ok a) := ⟨a, rfl⟩

theorem compile (text? : Option String) : Blames text?.toList (compile text?) := by
  cases text? with
  | none => exact ⟨none, rfl⟩
  | some text =>
    rw [Blames, Ignore.compile]
    cases read : Pattern.ofText? text <;> simp [compiles, read]

/-- A step that comes after another looks at its texts after those of the other. -/
theorem bind (h : Blames texts outcome) (h' : ∀ a, Blames others (next a)) :
    Blames (texts ++ others) (outcome >>= next) := by
  rw [Blames, List.find?_append]
  rw [Blames] at h
  cases found : texts.find? fun text => !compiles text with
  | some text =>
    rw [found] at h
    cases h
    rfl
  | none =>
    rw [found] at h
    obtain ⟨a, rfl⟩ := h
    exact h' a

theorem exists_ok_iff (h : Blames texts outcome) :
    (∃ a, outcome = .ok a) ↔ ∀ text ∈ texts, compiles text := by
  rw [Blames] at h
  cases found : texts.find? fun text => !compiles text with
  | some text =>
    rw [found] at h
    cases h
    have bad := List.find?_some found
    simpa using ⟨text, List.mem_of_find?_eq_some found, by simpa using bad⟩
  | none =>
    rw [found] at h
    simpa [h] using List.find?_eq_none.mp found

theorem eq_error_iff (h : Blames texts outcome) {failure : Failure} :
    outcome = .error failure ↔
      ∃ before text after, texts = before ++ text :: after ∧
        (∀ other ∈ before, compiles other) ∧ ¬ compiles text ∧
        failure = .invalidPattern text := by
  have first : outcome = .error failure ↔
      ∃ text, (texts.find? fun text => !compiles text) = some text ∧
        failure = .invalidPattern text := by
    rw [Blames] at h
    cases found : texts.find? fun text => !compiles text with
    | some text =>
      rw [found] at h
      cases h
      simpa using eq_comm
    | none =>
      rw [found] at h
      obtain ⟨a, rfl⟩ := h
      simp
  rw [first]
  simp only [List.find?_eq_some_iff_append, Bool.not_eq_true', Bool.not_eq_true, Bool.not_not]
  constructor
  · rintro ⟨text, ⟨bad, before, after, split, good⟩, same⟩
    exact ⟨before, text, after, split, good, bad, same⟩
  · rintro ⟨before, text, after, split, good, bad, same⟩
    exact ⟨text, ⟨bad, before, after, split, good⟩, same⟩

end Blames

/-- **The first text that is no pattern is blamed.** -/
theorem blames_ofSettings (settings : Settings) : Blames settings.patterns (ofSettings settings) :=
  (Blames.compile settings.paths).bind fun _ =>
    (Blames.compile settings.directories).bind fun _ =>
      (Blames.compile settings.names).bind fun _ =>
        (Blames.compile settings.content).bind fun _ => .pure _

end Ignore

/-! ## Stages -/

namespace Command

variable {files : Files} {options : Options} {timestamp : Int} {text : String}

/-- What goes wrong first. -/
inductive FirstTrouble (files : Files) (options : Options) (timestamp : Int) (text : String) :
    Trouble → Prop where
  /-- The first text that is no pattern. -/
  | pattern {before after : List String} {bad : String}
      (given : options.ignore.patterns = before ++ bad :: after)
      (good : ∀ other ∈ before, Ignore.compiles other) (fails : ¬ Ignore.compiles bad) :
      FirstTrouble files options timestamp text ⟨"Bad ignore pattern", .invalidPattern bad⟩
  /-- All patterns are good, and there is no module. -/
  | module {failure : Failure} (good : ∀ pattern ∈ options.ignore.patterns, Ignore.compiles pattern)
      (fails : Module.load files options.moduleRoot = .error failure) :
      FirstTrouble files options timestamp text
        ⟨s!"Failed to load Go module at {options.moduleRoot}", failure⟩
  /-- There is a module, and the profile is not as it should be. -/
  | profile {module : Module} {fault : Profile.Fault}
      (good : ∀ pattern ∈ options.ignore.patterns, Ignore.compiles pattern)
      (loaded : Module.load files options.moduleRoot = .ok module)
      (fails : Profile.parse text = .error fault) :
      FirstTrouble files options timestamp text
        ⟨"Code coverage conversion failed", .ofProfile fault⟩
  /-- The profile is good, and a file fails alone that is the first to do so. -/
  | file {ignore : Ignore} {module : Module} {before after : List Profile} {bad : Profile}
      {failure : Failure} (compiled : Ignore.ofSettings options.ignore = .ok ignore)
      (loaded : Module.load files options.moduleRoot = .ok module)
      (parsed : Profile.parse text = .ok (before ++ bad :: after))
      (good : ∀ other ∈ before, ∃ report,
        ((module.conversion files ignore options.grouping timestamp).convert [other]).2 =
          .ok report)
      (fails : ((module.conversion files ignore options.grouping timestamp).convert [bad]).2 =
        .error failure) :
      FirstTrouble files options timestamp text ⟨"Code coverage conversion failed", failure⟩

/-- Every stage succeeds. -/
def EveryStage (files : Files) (options : Options) (timestamp : Int) (text : String) : Prop :=
  ∃ ignore module profiles, Ignore.ofSettings options.ignore = .ok ignore ∧
    Module.load files options.moduleRoot = .ok module ∧ Profile.parse text = .ok profiles ∧
    ∀ profile ∈ profiles, ∃ report,
      ((module.conversion files ignore options.grouping timestamp).convert [profile]).2 =
        .ok report

/-- A report is made in stages, each of which needs what came of those before it. -/
theorem coverage_eq (files : Files) (options : Options) (timestamp : Int) (text : String) :
    coverage files options timestamp text =
      match Ignore.ofSettings options.ignore with
      | .error failure => .error ⟨"Bad ignore pattern", failure⟩
      | .ok ignore =>
        match Module.load files options.moduleRoot with
        | .error failure => .error ⟨s!"Failed to load Go module at {options.moduleRoot}", failure⟩
        | .ok module =>
          match Profile.parse text with
          | .error fault => .error ⟨"Code coverage conversion failed", .ofProfile fault⟩
          | .ok profiles =>
            match ((module.conversion files ignore options.grouping timestamp).convert profiles).2
            with
            | .error failure => .error ⟨"Code coverage conversion failed", failure⟩
            | .ok report => .ok (report.render options.format) := by
  rw [coverage]
  cases Ignore.ofSettings options.ignore with
  | error failure => rfl
  | ok ignore =>
    cases Module.load files options.moduleRoot with
    | error failure => rfl
    | ok module =>
      show (during _ (Conversion.convertText _ text).2 >>= _) = _
      rw [Conversion.convertText]
      cases Profile.parse text with
      | error fault => rfl
      | ok profiles =>
        show (during _ ((module.conversion files ignore options.grouping timestamp).convert
          profiles).2 >>= _) = _
        dsimp only
        cases ((module.conversion files ignore options.grouping timestamp).convert profiles).2 with
        | error failure => rfl
        | ok report => rfl

/-- **A run ends with what goes wrong first, or has come through every stage.** -/
theorem outcome_coverage (files : Files) (options : Options) (timestamp : Int) (text : String) :
    (∃ trouble, coverage files options timestamp text = .error trouble ∧
        FirstTrouble files options timestamp text trouble) ∨
      ∃ report, coverage files options timestamp text = .ok report ∧
        EveryStage files options timestamp text := by
  have blamed := Ignore.blames_ofSettings options.ignore
  rw [coverage_eq]
  cases compiled : Ignore.ofSettings options.ignore with
  | error failure =>
    obtain ⟨before, bad, after, given, good, fails, rfl⟩ := blamed.eq_error_iff.mp compiled
    exact .inl ⟨_, rfl, .pattern given good fails⟩
  | ok ignore =>
    have good := blamed.exists_ok_iff.mp ⟨ignore, compiled⟩
    cases loaded : Module.load files options.moduleRoot with
    | error failure => exact .inl ⟨_, rfl, .module good loaded⟩
    | ok module =>
      cases parsed : Profile.parse text with
      | error fault => exact .inl ⟨_, rfl, .profile good loaded parsed⟩
      | ok profiles =>
        dsimp only
        cases converted :
          ((module.conversion files ignore options.grouping timestamp).convert profiles).2 with
        | error failure =>
          obtain ⟨before, bad, after, rfl, good, fails⟩ :=
            Conversion.convert_eq_error_iff.mp converted
          exact .inl ⟨_, rfl, .file compiled loaded parsed good fails⟩
        | ok report =>
          have each := Conversion.exists_convert_iff.mp ⟨report, converted⟩
          exact .inr ⟨_, rfl, ignore, module, profiles, compiled, loaded, parsed, each⟩

/-- What goes wrong first is reported. -/
theorem FirstTrouble.reported {trouble : Trouble}
    (h : FirstTrouble files options timestamp text trouble) :
    coverage files options timestamp text = .error trouble := by
  have blamed := Ignore.blames_ofSettings options.ignore
  rw [coverage_eq]
  cases h with
  | pattern given good fails =>
    rw [blamed.eq_error_iff.mpr ⟨_, _, _, given, good, fails, rfl⟩]
  | module good fails =>
    obtain ⟨ignore, compiled⟩ := blamed.exists_ok_iff.mpr good
    rw [compiled, fails]
  | profile good loaded fails =>
    obtain ⟨ignore, compiled⟩ := blamed.exists_ok_iff.mpr good
    rw [compiled, loaded, fails]
  | file compiled loaded parsed good fails =>
    rw [compiled, loaded, parsed]
    dsimp only
    rw [Conversion.convert_eq_error_iff.mpr ⟨_, _, _, rfl, good, fails⟩]

/-- A run that comes through every stage makes a report. -/
theorem EveryStage.succeeds (h : EveryStage files options timestamp text) :
    ∃ report, coverage files options timestamp text = .ok report := by
  obtain ⟨ignore, module, profiles, compiled, loaded, parsed, each⟩ := h
  obtain ⟨report, converted⟩ := Conversion.exists_convert_iff.mpr each
  rw [coverage_eq, compiled, loaded, parsed]
  dsimp only
  rw [converted]
  exact ⟨_, rfl⟩

/-- **What goes wrong first is reported, and if nothing goes wrong there is a report.**  The first
text that is no pattern is blamed whatever the module and the profile are, a module that cannot be
loaded whatever the profile is, and a profile that is not as it should be whatever its source files
are.  Of the files of a profile, taken in the order in which they occur first in the text, the first
is blamed that fails alone, and just as it fails alone: whether and how a file fails does not depend
on the report that there is so far. -/
theorem coverage_reports_first (files : Files) (options : Options) (timestamp : Int)
    (text : String) :
    (∀ trouble, coverage files options timestamp text = .error trouble ↔
        FirstTrouble files options timestamp text trouble) ∧
      ((∃ report, coverage files options timestamp text = .ok report) ↔
        EveryStage files options timestamp text) ∧
      (∀ profiles, Profile.parse text = .ok profiles →
        profiles.map (·.file) = ((Profile.entriesOf text).map (·.1)).eraseDups) ∧
      ∀ (conversion : Conversion) (report : Report) (profile : Profile) (failure : Failure),
        conversion.addProfile report profile = .error failure ↔
          (conversion.convert [profile]).2 = .error failure := by
  have outcome := outcome_coverage files options timestamp text
  refine ⟨fun trouble => ⟨fun failed => ?_, fun first => first.reported⟩,
    ⟨fun ⟨report, succeeded⟩ => ?_, fun every => every.succeeds⟩, fun profiles parsed => ?_,
    fun conversion report profile failure => ?_⟩
  · rcases outcome with ⟨trouble', failed', first⟩ | ⟨report, succeeded, _⟩
    · cases failed.symm.trans failed'
      exact first
    · cases failed.symm.trans succeeded
  · rcases outcome with ⟨trouble, failed, _⟩ | ⟨_, _, every⟩
    · cases succeeded.symm.trans failed
    · exact every
  · obtain ⟨mode, rfl⟩ := Profile.parse_eq_group parsed
    rw [Profile.group, List.map_map]
    exact List.map_id _
  · rw [Conversion.addProfile_eq_error_iff, Conversion.convert_singleton_eq_error_iff]

/-- A module with one file. -/
def oneFile : Files.Snapshot where
  places := [("/m", .ok "/m")]
  contents := [("/m/go.mod", .ok (bytesOf "module m\n")), ("/m/a.go", .ok (bytesOf "func A(){}"))]
  listings := [("/m/", .ok ["a.go"])]

/-- A profile of a file that is there, one that is missing, and one of another module. -/
def missingFiles : String :=
  "mode: set\nm/a.go:1.8,1.11 1 1\nm/b.go:1.1,1.2 1 1\nx/c.go:1.1,1.2 1 1\n"

theorem coverage_reports_first_missing :
    let options := { Options.default with moduleRoot := "/m" }
    let trouble : Trouble := ⟨"Code coverage conversion failed", .packageNotFound "m/b.go"⟩
    coverage oneFile.files options 0 missingFiles = .error trouble ∧
      FirstTrouble oneFile.files options 0 missingFiles trouble := by
  intro options trouble
  have failed : coverage oneFile.files options 0 missingFiles = .error trouble := by
    decide +kernel
  obtain ⟨first, _⟩ := coverage_reports_first oneFile.files options 0 missingFiles
  exact ⟨failed, (first trouble).mp failed⟩

end Command

end GoCoverage
