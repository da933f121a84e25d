import GoCoverage.Proofs.Conversion.Run

/-! # What is found for a file

What a profile comes to depends on its file and not on its blocks, nor on the report that there is
so far (`Conversion.find`).  So a conversion has a closed form: it fails with the first failure that
a file of the profiles comes to, and otherwise it has recorded what was found for each of them
(`convert_eq`).  A profile fails in a list as it fails alone (`convert_eq_error_iff`). -/

namespace GoCoverage.Conversion

variable (conversion : Conversion)

/-! ## Files -/

/-- Why nothing is found for a file. -/
def failure? (file : String) : Option Failure :=
  match conversion.find file with
  | .error failure => some failure
  | .ok _ => none

/-- The source of a file, if one is found and not left out. -/
def source? (file : String) : Option Source := (conversion.find file).toOption.bind (·.source)

/-- The directory that the name of a file is relative to, if the file is found. -/
def root? (file : String) : Option String :=
  (conversion.find file).toOption.map (·.package.moduleRoot)

/-- What a profile contributes, if it contributes anything. -/
def contribution? (profile : Profile) : Option Contribution :=
  (conversion.source? profile.file).map (·.contribution profile.blocks)

/-- What a profile comes to, if it comes to anything. -/
def taken? (profile : Profile) : Option (Module.Package × Option Contribution) :=
  (conversion.find profile.file).toOption.map fun found =>
    (found.package, found.contribution? profile.blocks)

/-- A source has been read in the package that its file is found in. -/
theorem exists_of_source?_eq_some {file : String} {source : Source}
    (h : conversion.source? file = some source) :
    ∃ package text, conversion.resolve file = .ok package ∧
      package.relativeName? file = some source.file ∧
      Go.declarations? text = some source.declarations := by
  obtain ⟨found, isFound, hasSource⟩ := Option.bind_eq_some_iff.mp h
  rw [toOption_eq_some] at isFound
  have takes : conversion.Takes ⟨file, .set, []⟩ found.package (found.contribution? []) :=
    takes_of_find isFound
  rw [Found.contribution?, hasSource, Option.map_some] at takes
  obtain ⟨_, name, declarations⟩ := source
  cases takes with
  | mapped resolved named _ _ _ _ parsed => exact ⟨found.package, _, resolved, named, parsed⟩

/-- What is taken from profiles are their contributions. -/
theorem filterMap_taken? (profiles : List Profile) :
    (profiles.filterMap conversion.taken?).filterMap (·.2) =
      profiles.filterMap conversion.contribution? := by
  rw [List.filterMap_filterMap]
  refine List.filterMap_congr fun profile _ => ?_
  rw [taken?, contribution?, source?]
  cases (conversion.find profile.file).toOption <;> rfl

/-- Directories are listed for the files that are found. -/
theorem map_root_taken? (profiles : List Profile) :
    (profiles.filterMap conversion.taken?).map (·.1.moduleRoot) =
      (profiles.map (·.file)).filterMap conversion.root? := by
  rw [List.map_filterMap, List.filterMap_map]
  refine List.filterMap_congr fun profile _ => ?_
  rw [Function.comp_apply, taken?, root?]
  cases (conversion.find profile.file).toOption <;> rfl

/-! ## The whole run -/

/-- A run fails with the first failure of its files, or has recorded what all of them come to. -/
theorem addProfiles_eq (report : Report) (profiles : List Profile) :
    (conversion.addProfiles report profiles).2 =
      match (profiles.map (·.file)).findSome? conversion.failure? with
      | some failure => .error failure
      | none => .ok (conversion.recordAll report (profiles.filterMap conversion.taken?)) := by
  -- each step hands on another report, so the induction is over all of them
  induction profiles generalizing report with
  | nil => rfl
  | cons profile profiles ih =>
    have step := conversion.map_fst_addProfile report profile
    rw [addProfiles, List.map_cons, List.findSome?_cons, failure?, List.filterMap_cons, taken?]
    cases found : conversion.find profile.file with
    | error failure =>
      rw [found] at step
      rw [map_eq_error.mp step]
    | ok found' =>
      rw [found] at step
      obtain ⟨⟨_, note⟩, added, rfl⟩ := map_eq_ok.mp step
      rw [added]
      exact ih _

/-- **A conversion in closed form.**  It fails with the first failure that a file comes to, and
otherwise it has recorded what was found for all files. -/
theorem convert_eq (profiles : List Profile) :
    (conversion.convert profiles).2 =
      match (profiles.map (·.file)).findSome? conversion.failure? with
      | some failure => .error failure
      | none => .ok (conversion.recordAll (.empty conversion.timestamp)
          (profiles.filterMap conversion.taken?)).withTotals := by
  have run := conversion.addProfiles_eq (.empty conversion.timestamp) profiles
  rw [convert]
  cases added : conversion.addProfiles (.empty conversion.timestamp) profiles with
  | mk notes result =>
    rw [added] at run
    cases run
    dsimp only
    cases (profiles.map (·.file)).findSome? conversion.failure? <;> rfl

/-! ## One profile at a time -/

variable {conversion}

/-- A step fails as its file does, whatever report there is. -/
theorem addProfile_eq_error_iff {report : Report} {profile : Profile} {failure : Failure} :
    conversion.addProfile report profile = .error failure ↔
      conversion.failure? profile.file = some failure := by
  rw [← map_eq_error, conversion.map_fst_addProfile, map_eq_error, failure?]
  cases conversion.find profile.file <;> simp

theorem convert_singleton_eq_error_iff {profile : Profile} {failure : Failure} :
    (conversion.convert [profile]).2 = .error failure ↔
      conversion.failure? profile.file = some failure := by
  rw [convert_eq, List.map_singleton, List.findSome?_singleton]
  cases conversion.failure? profile.file <;> simp

theorem exists_convert_singleton_iff {profile : Profile} :
    (∃ report, (conversion.convert [profile]).2 = .ok report) ↔
      conversion.failure? profile.file = none := by
  rw [convert_eq, List.map_singleton, List.findSome?_singleton]
  cases conversion.failure? profile.file <;> simp

/-- **A conversion fails with the first profile that fails alone**, and in the same way. -/
theorem convert_eq_error_iff {profiles : List Profile} {failure : Failure} :
    (conversion.convert profiles).2 = .error failure ↔
      ∃ before bad after, profiles = before ++ bad :: after ∧
        (∀ other ∈ before, ∃ report, (conversion.convert [other]).2 = .ok report) ∧
        (conversion.convert [bad]).2 = .error failure := by
  have first : (conversion.convert profiles).2 = .error failure ↔
      profiles.findSome? (conversion.failure? ∘ (·.file)) = some failure := by
    rw [convert_eq, List.findSome?_map]
    cases profiles.findSome? (conversion.failure? ∘ (·.file)) <;> simp
  rw [first, List.findSome?_eq_some_iff]
  simp only [exists_convert_singleton_iff, convert_singleton_eq_error_iff]
  constructor
  · rintro ⟨before, bad, after, split, fails, good⟩
    exact ⟨before, bad, after, split, good, fails⟩
  · rintro ⟨before, bad, after, split, good, fails⟩
    exact ⟨before, bad, after, split, fails, good⟩

/-- A conversion succeeds if it succeeds on each profile alone. -/
theorem exists_convert_iff {profiles : List Profile} :
    (∃ report, (conversion.convert profiles).2 = .ok report) ↔
      ∀ profile ∈ profiles, ∃ report, (conversion.convert [profile]).2 = .ok report := by
  have none : (∃ report, (conversion.convert profiles).2 = .ok report) ↔
      (profiles.map (·.file)).findSome? conversion.failure? = none := by
    rw [convert_eq]
    cases (profiles.map (·.file)).findSome? conversion.failure? <;> simp
  rw [none, List.findSome?_eq_none_iff, List.forall_mem_map]
  simp only [exists_convert_singleton_iff]

end GoCoverage.Conversion
