import GoCoverage.Proofs.Conversion.Sources
import GoCoverage.Proofs.Go.SourceOrder

/-! # Profiles of one file put together

The blocks of a file may come in several profiles, or all in one.  In one, they are scanned together
for each declaration.  In several, they are scanned by themselves, and the tables are joined
afterwards.  Both give a line of a declaration the smallest count of all blocks that overlap the
declaration, if each scan misses none of them, and it misses none if its blocks are in the order of
their positions (`Source.classes_merged`).  What else the report has depends on the order in which
the files occur first, and that is kept (`Profile.eraseDups_map_file_fuse`). -/

namespace GoCoverage

open Go (Declaration)
open Profile (Block)
open Report (Grouping)
open Text (Span)

/-! ## Putting profiles together -/

namespace Profile

/-- The profiles with the given blocks in the first profile of a file, and without the others of the
file. -/
def fuse (file : String) (blocks : List Block) : List Profile → List Profile
  | [] => []
  | profile :: profiles =>
    if profile.file = file then
      { profile with blocks := blocks } :: profiles.filter (·.file != file)
    else profile :: fuse file blocks profiles

variable {file : String} {blocks : List Block}

/-- The files occur first in the same order. -/
theorem eraseDups_map_file_fuse (profiles : List Profile) :
    ((fuse file blocks profiles).map (·.file)).eraseDups = (profiles.map (·.file)).eraseDups := by
  induction profiles with
  | nil => rfl
  | cons profile profiles ih =>
    rw [fuse]
    split
    · rename_i same
      -- behind the first profile of the file, `eraseDups` drops the others anyway
      have rest : ((profiles.filter (·.file != file)).map (·.file)).filter (!· == file) =
          (profiles.map (·.file)).filter (!· == file) := by
        rw [List.filter_map, List.filter_map, List.filter_filter]
        exact congrArg _ (List.filter_congr fun other _ => Bool.and_self _)
      rw [List.map_cons, List.map_cons, List.eraseDups_cons, List.eraseDups_cons, same, rest]
    · rw [List.map_cons, List.map_cons, List.eraseDups_cons, List.eraseDups_cons, eraseDups_filter,
        ih, ← eraseDups_filter]

/-- The profiles of other files stay as they are. -/
theorem filter_fuse_of_not (keep : String → Bool) (other : keep file = false)
    (profiles : List Profile) :
    (fuse file blocks profiles).filter (keep ·.file) = profiles.filter (keep ·.file) := by
  induction profiles with
  | nil => rfl
  | cons profile profiles ih =>
    rw [fuse]
    split
    · rename_i same
      have rest : (profiles.filter (·.file != file)).filter (keep ·.file) =
          profiles.filter (keep ·.file) := by
        rw [List.filter_filter]
        refine List.filter_congr fun p _ => ?_
        by_cases h : p.file = file
        · simp [h, other]
        · simp [h]
      have left : keep profile.file = false := same ▸ other
      simp [left, rest]
    · rw [List.filter_cons, List.filter_cons, ih]

/-- All that is left of the file are the given blocks. -/
theorem filter_fuse (profiles : List Profile) :
    ((fuse file blocks profiles).filter (·.file == file)).map (·.blocks) =
      if file ∈ profiles.map (·.file) then [blocks] else [] := by
  induction profiles with
  | nil => rfl
  | cons profile profiles ih =>
    rw [fuse]
    by_cases same : profile.file = file
    · simp [same]
    · have same' : ¬ file = profile.file := fun h => same h.symm
      simp [same, same', ih]

end Profile

/-! ## One scan or several -/

/-- The counts of a line do not depend on the order of the blocks. -/
theorem countsInSpan_congr {blocks others : List Block}
    (h : ∀ block, block ∈ blocks ↔ block ∈ others) (span : Span) (number : Nat) :
    countsInSpan span blocks number = countsInSpan span others number := by
  simp only [countsInSpan, h]

namespace Source

variable {source : Source} {runs : List (List Block)} {merged : List Block}

/-- Tables of runs that miss nothing, when joined, have the counts of all blocks. -/
theorem least_joinTable
    (ordered : (source.declarations.map (·.toSpan)).Pairwise (·.start ≤ ·.start))
    (sorted : ∀ run ∈ runs, run.Pairwise (·.start ≤ ·.start)) {i : Nat} {declaration : Declaration}
    (h : source.declarations[i]? = some declaration) :
    (Report.joinTable (runs.map source.tables) i).Least
      (countsInSpan declaration.toSpan runs.flatten) := by
  have scanned : ∀ run : List Block, (source.tables run)[i]?.getD .empty =
      linesOfSpan declaration.toSpan
        (run.dropWhile (·.endsBefore declaration.toSpan.start)) := by
    intro run
    rw [tables, scanBlocks_eq_map ordered, List.getElem?_map, List.getElem?_map, h]
    rfl
  rw [Report.joinTable, List.foldl_map]
  simp only [scanned]
  -- joining tables keeps the least counts, so what is left is whose counts they are
  refine (Lines.least_foldl
    (fun run member => least_linesOfSpan_of_sorted (sorted run member) declaration.toSpan)
    Lines.Least.empty).congr fun number => ?_
  ext hits
  simp only [countsInSpan, Set.empty_union, List.mem_flatten]
  constructor
  · rintro ⟨run, member, block, inRun, overlaps⟩
    exact ⟨block, ⟨run, member, inRun⟩, overlaps⟩
  · rintro ⟨block, ⟨run, member, inRun⟩, overlaps⟩
    exact ⟨run, member, block, inRun, overlaps⟩

/-- **One scan of all blocks comes to the same as several scans**, if all blocks are in order. -/
theorem classes_merged
    (ordered : (source.declarations.map (·.toSpan)).Pairwise (·.start ≤ ·.start))
    (sorted : ∀ run ∈ runs, run.Pairwise (·.start ≤ ·.start))
    (sorted' : merged.Pairwise (·.start ≤ ·.start)) (all : merged.Perm runs.flatten)
    (grouping : Grouping) :
    source.classes grouping [merged] = source.classes grouping runs := by
  have joined : Report.joinTables source.declarations.length ([merged].map source.tables) =
      Report.joinTables source.declarations.length (runs.map source.tables) := by
    refine List.map_congr_left fun i inRange => ?_
    have h := List.getElem?_eq_getElem (List.mem_range.mp inRange)
    refine (least_joinTable ordered (by simpa using sorted') h).unique ?_
    refine (least_joinTable ordered sorted h).congr fun number => ?_
    refine countsInSpan_congr (fun block => ?_) _ number
    rw [List.flatten_singleton, all.mem_iff]
  rw [classes, classes, joined]

end Source

/-! ## Conversions -/

namespace Conversion

variable {conversion : Conversion} {file : String} {source : Source} {blocks : List Block}

/-- The runs of a source are those of its file. -/
theorem Apart.runs_eq (apart : conversion.Apart) (found : conversion.source? file = some source)
    (profiles : List Profile) :
    conversion.runs profiles source = (profiles.filter (·.file == file)).map (·.blocks) := by
  rw [runs]
  congr 1
  refine List.filter_congr fun profile _ => ?_
  rw [Bool.eq_iff_iff, beq_iff_eq, beq_iff_eq]
  constructor
  · intro found'
    exact apart found' found rfl
  · rintro rfl
    exact found

/-- A source of another file has the runs that it had. -/
theorem runs_fuse_of_ne (found : conversion.source? file ≠ some source) (profiles : List Profile) :
    conversion.runs (Profile.fuse file blocks profiles) source =
      conversion.runs profiles source := by
  rw [runs, runs]
  congr 1
  exact Profile.filter_fuse_of_not (fun file => conversion.source? file == some source)
    (by simpa using found) profiles

/-- One profile with all blocks of a file comes to the same as several profiles. -/
theorem convert_eq_convert_fuse (apart : conversion.Apart) {profiles : List Profile}
    (sorted : ∀ profile ∈ profiles, profile.file = file →
      profile.blocks.Pairwise (·.start ≤ ·.start))
    (sorted' : blocks.Pairwise (·.start ≤ ·.start))
    (all : blocks.Perm ((profiles.filter (·.file == file)).flatMap (·.blocks))) :
    (conversion.convert profiles).2 =
      (conversion.convert (Profile.fuse file blocks profiles)).2 := by
  refine convert_congr apart (Profile.eraseDups_map_file_fuse profiles).symm ?_
  intro other source found
  -- a source has other runs than before only if it is that of the file
  by_cases same : conversion.source? file = some source
  · obtain ⟨_, _, _, _, parsed⟩ := conversion.exists_of_source?_eq_some same
    rw [apart.runs_eq same, apart.runs_eq same, Profile.filter_fuse]
    split
    · refine (Source.classes_merged (Go.declarations_ordered parsed) ?_ sorted' ?_ _).symm
      · intro run member
        obtain ⟨profile, isOfFile, rfl⟩ := List.mem_map.mp member
        obtain ⟨isProfile, ofFile⟩ := List.mem_filter.mp isOfFile
        exact sorted profile isProfile (beq_iff_eq.mp ofFile)
      · exact all
    · rename_i absent
      have none : profiles.filter (·.file == file) = [] := by
        rw [List.filter_eq_nil_iff]
        intro profile member ofFile
        exact absent (List.mem_map.mpr ⟨profile, member, beq_iff_eq.mp ofFile⟩)
      rw [none, List.map_nil]
  · rw [runs_fuse_of_ne same]

/-- A profile that occurs again comes to nothing new. -/
theorem convert_eq_convert_of_repeated (apart : conversion.Apart)
    (before middle after : List Profile) (profile : Profile) :
    (conversion.convert (before ++ profile :: middle ++ profile :: after)).2 =
      (conversion.convert (before ++ profile :: middle ++ after)).2 := by
  refine convert_congr apart ?_ ?_
  · have known : profile.file ∈ (before ++ profile :: middle).map (·.file) := by simp
    have again := eraseDups_append_cons_of_mem known (after.map (·.file))
    rwa [← List.map_cons, ← List.map_append, ← List.map_append] at again
  · intro file source _
    have members : ∀ p, p ∈ before ++ profile :: middle ++ profile :: after ↔
        p ∈ before ++ profile :: middle ++ after := by
      intro p
      simp only [List.mem_append, List.mem_cons]
      grind
    refine source.classes_congr conversion.grouping fun run => ?_
    simp only [runs, List.mem_map, List.mem_filter, members]

end Conversion

namespace Module

variable {module : Module} {files : Files} {ignore : Ignore} {grouping : Grouping}
variable {timestamp : Int}

/-- **It does not matter how the blocks of a file are spread over profiles.**  If the profiles of a
file have their blocks in order, a conversion comes to the same, be it a report or a failure, when
the first of them has all blocks in order and the others are left out.  A profile that occurs again
changes nothing at all. -/
theorem convert_fuse :
    let conversion := module.conversion files ignore grouping timestamp
    (∀ (profiles : List Profile) (file : String) (blocks : List Block),
      (∀ profile ∈ profiles, profile.file = file → profile.blocks.Pairwise (·.start ≤ ·.start)) →
      blocks.Pairwise (·.start ≤ ·.start) →
      blocks.Perm ((profiles.filter (·.file == file)).flatMap (·.blocks)) →
      (conversion.convert profiles).2 =
        (conversion.convert (Profile.fuse file blocks profiles)).2) ∧
    ∀ (before middle after : List Profile) (profile : Profile),
      (conversion.convert (before ++ profile :: middle ++ profile :: after)).2 =
        (conversion.convert (before ++ profile :: middle ++ after)).2 := by
  intro conversion
  have apart : conversion.Apart := module.apart_conversion files ignore grouping timestamp
  constructor
  · intro profiles file blocks sorted sorted' all
    exact Conversion.convert_eq_convert_fuse apart sorted sorted' all
  · exact Conversion.convert_eq_convert_of_repeated apart

/-- The blocks of both profiles of the first file of the small module. -/
def smallBlocks : List Block := [⟨⟨⟨1, 8⟩, ⟨1, 11⟩⟩, 1, 2⟩, ⟨⟨⟨1, 8⟩, ⟨2, 18⟩⟩, 2, 4⟩]

theorem convert_fuse_small :
    (∀ profile ∈ smallProfiles, profile.file = "m/a.go" →
        profile.blocks.Pairwise (·.start ≤ ·.start)) ∧
      smallBlocks.Pairwise (·.start ≤ ·.start) ∧
      smallBlocks.Perm ((smallProfiles.filter (·.file == "m/a.go")).flatMap (·.blocks)) ∧
      (Profile.fuse "m/a.go" smallBlocks smallProfiles).map (·.file) =
        ["m/a.go", "m/b/c.go", "m/g/c_gen.go"] ∧
      ∃ report, (smallConversion.convert smallProfiles).2 = .ok report ∧
        report.packages.map (·.name) = ["m", "m/b"] ∧
        (smallConversion.convert (Profile.fuse "m/a.go" smallBlocks smallProfiles)).2 =
          .ok report := by
  have sorted : ∀ profile ∈ smallProfiles, profile.file = "m/a.go" →
      profile.blocks.Pairwise (·.start ≤ ·.start) := by decide
  have sorted' : smallBlocks.Pairwise (·.start ≤ ·.start) := by decide
  have all : smallBlocks.Perm ((smallProfiles.filter (·.file == "m/a.go")).flatMap (·.blocks)) :=
    .swap _ _ _
  obtain ⟨report, converted, names⟩ := convert_smallProfiles
  have same : (smallConversion.convert smallProfiles).2 =
      (smallConversion.convert (Profile.fuse "m/a.go" smallBlocks smallProfiles)).2 :=
    convert_fuse.1 smallProfiles "m/a.go" smallBlocks sorted sorted' all
  exact ⟨sorted, sorted', all, rfl, report, converted, names, same.symm.trans converted⟩

end Module

end GoCoverage
