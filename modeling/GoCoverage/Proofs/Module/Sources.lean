import GoCoverage.Files.Snapshot
import GoCoverage.Files.Tree
import GoCoverage.Proofs.Conversion.Run
import GoCoverage.Proofs.Files.Lexical

/-! # Where the sources of a package lie

A package has the Go files of one directory, and that directory is named by a profile.  Nothing is
filtered out of the name, so a slash at its beginning makes it absolute and `..` leads up.  The
sources lie below the module's root exactly if the name keeps inside it (`KeepsInside`): a relative
name that climbs above the root has to come back by the same directories.  A name that never climbs
keeps inside any root; one that climbs finds files outside (`outside_source_is_found`). -/

namespace GoCoverage

open Files

/-- The names of files in a directory hold no slashes. -/
def Files.PlainNames (files : Files) : Prop :=
  ∀ directory names, files.list directory = .ok names → ∀ name ∈ names, '/' ∉ name.toList

namespace Module

variable {module : Module} {files : Files} {file directory name : String} {package : Package}

/-- A file is resolved if it is named as one of the module and its directory can be listed. -/
theorem resolve_eq_ok_iff :
    module.resolve files file = .ok package ↔
      ∃ directory names, module.directory? file = some directory ∧
        files.list (Path.join module.root directory) = .ok names ∧
        package = module.packageOf directory names := by
  rw [resolve]
  constructor
  · intro h
    split at h
    · cases h
    · rename_i directory named
      split at h
      · cases h
      · rename_i names listed
        cases h
        exact ⟨directory, names, named, listed, rfl⟩
  · rintro ⟨directory, names, named, listed, rfl⟩
    rw [named]
    dsimp only
    rw [listed]

/-- A directory, as it is named in a module, lies in the module's root or is the root itself. -/
def KeepsInside (module : Module) (directory : String) : Prop :=
  if Path.isAbsolute directory then
    Path.place module.root <+: Path.place directory
  else
    (Path.place module.root).drop
      ((Path.place module.root).length - (Path.lead directory).up) <+: (Path.lead directory).down

theorem keepsInside_iff :
    module.KeepsInside directory ↔
      Path.place module.root <+: Path.place (Path.join module.root directory) := by
  unfold KeepsInside
  split
  · rename_i absolute
    rw [Path.join, if_pos absolute]
  · rename_i relative
    rw [Path.place_join module.root (Bool.eq_false_iff.mpr relative), Path.follow_eq_fromPlace]
    exact (Path.prefix_fromPlace_iff _ _).symm

/-- A relative name that never climbs keeps inside. -/
theorem keepsInside_of_up_eq_zero (relative : Path.isAbsolute directory = false)
    (level : (Path.lead directory).up = 0) : module.KeepsInside directory := by
  rw [KeepsInside, if_neg (by simp [relative]), level, Nat.sub_zero, List.drop_length]
  exact List.nil_prefix

/-- The name of a Go file leads one level down. -/
theorem place_join_of_isGoName (isGo : Path.isGoName name = true) (slash : '/' ∉ name.toList) :
    Path.place (Path.join directory name) = Path.place directory ++ [name] := by
  rw [Path.place_join directory (Path.isAbsolute_of_no_slash slash)]
  exact Path.follow_name slash _ (Path.ne_of_isGoName isGo)

/-- A file lies below a directory if what it is in is the directory or lies below it. -/
theorem below_join_iff {root : String} (isGo : Path.isGoName name = true)
    (slash : '/' ∉ name.toList) :
    Path.Below root (Path.join directory name) ↔ Path.place root <+: Path.place directory := by
  rw [Path.Below, place_join_of_isGoName isGo slash, List.prefix_concat_iff]
  constructor
  · rintro ⟨same | inside, other⟩
    · exact absurd same.symm other
    · exact inside
  · intro inside
    refine ⟨.inr inside, fun same => ?_⟩
    have length := inside.length_le
    rw [← same, List.length_append, List.length_singleton] at length
    omega

/-- **A package's sources lie below the module's root exactly if its directory keeps inside**, as
the profile names it.  A relative name that never climbs above where it begins always does. -/
theorem source_below_iff (plain : files.PlainNames) (h : module.resolve files file = .ok package) :
    ∃ directory, module.directory? file = some directory ∧
      (∀ source ∈ package.sources,
        Path.Below module.root source ↔ module.KeepsInside directory) ∧
      (Path.isAbsolute directory = false → (Path.lead directory).up = 0 →
        ∀ source ∈ package.sources, Path.Below module.root source) := by
  obtain ⟨directory, names, named, listed, rfl⟩ := resolve_eq_ok_iff.mp h
  have each : ∀ source ∈ (module.packageOf directory names).sources,
      Path.Below module.root source ↔ module.KeepsInside directory := by
    intro source member
    obtain ⟨name, isName, rfl⟩ := List.mem_map.mp member
    obtain ⟨isListed, isGo⟩ := List.mem_filter.mp (List.mem_mergeSort.mp isName)
    rw [below_join_iff isGo (plain _ _ listed name isListed), keepsInside_iff]
  exact ⟨directory, named, each, fun relative level source member =>
    (each source member).mpr (keepsInside_of_up_eq_zero relative level)⟩

/-- A directory of a module, which a name reaches over the directory beside it. -/
def besideFiles : Snapshot where
  places := []
  contents := []
  listings := [("/w/m/a/../b", .ok ["notes", "x.go"])]

theorem source_below_iff_beside :
    Files.PlainNames besideFiles.files ∧
      ∃ package, Module.resolve ⟨"/w/m", "m"⟩ besideFiles.files "m/a/../b/x.go" = .ok package ∧
        package.sources = ["/w/m/a/../b/x.go"] ∧
        ∀ source ∈ package.sources, Path.Below "/w/m" source := by
  have plain : Files.PlainNames besideFiles.files := by
    intro directory names listed name member
    change ((besideFiles.listings.lookup directory).getD (.error .notFound)) = .ok names at listed
    rw [besideFiles, List.lookup_cons] at listed
    split at listed
    · cases listed
      revert name
      decide
    · cases listed
  obtain ⟨package, resolved, sources⟩ :
      ∃ package, Module.resolve ⟨"/w/m", "m"⟩ besideFiles.files "m/a/../b/x.go" = .ok package ∧
        package.sources = ["/w/m/a/../b/x.go"] :=
    exists_eq_ok_of_map (by decide +kernel)
  obtain ⟨directory, named, _, below⟩ := source_below_iff plain resolved
  cases (show Module.directory? ⟨"/w/m", "m"⟩ "m/a/../b/x.go" = some "a/../b" by
    decide +kernel).symm.trans named
  exact ⟨plain, package, resolved, sources, below (by decide +kernel) (by decide +kernel)⟩

/-- A module, and a directory beside it. -/
def neighbours : Tree where
  root := .directory [("w", .directory [
    ("m", .directory [("go.mod", .file (bytesOf "module m\n"))]),
    ("out", .directory [("x.go", .file (bytesOf "package out\n"))])])]
  current := []

/-- **A source outside the module is found.**  The name climbs above the module's root, and the file
there is read. -/
theorem outside_source_is_found :
    ∃ module package, Module.load neighbours.files "/w/m" = .ok module ∧
      module.resolve neighbours.files "m/../out/x.go" = .ok package ∧
      package.sources = ["/w/m/../out/x.go"] ∧
      neighbours.files.readText "/w/m/../out/x.go" = .ok "package out\n" ∧
      ¬ Path.Below module.root "/w/m/../out/x.go" :=
  ⟨⟨"/w/m", "m"⟩, ⟨"m/../out", "m", "/w/m", ["/w/m/../out/x.go"]⟩, by decide +kernel⟩

end Module

end GoCoverage
