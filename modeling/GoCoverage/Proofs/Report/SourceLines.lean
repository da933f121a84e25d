import GoCoverage.Proofs.Attribution.Scan
import GoCoverage.Proofs.Go.SourceOrder
import GoCoverage.Proofs.Profile.Entries
import GoCoverage.Proofs.Report.Classes

/-! # From the lines of a profile to the lines of methods

The reader of profiles keeps the blocks of a file as they stand in the text, and the scan relies on
their order.  So it matters where the block lines of a file stand.  Whatever their order, a method
lists the lines of the blocks that overlap its declaration and are in its reach, with the smallest
counts of these blocks (`forall₂_methods_of_declarations`); if the block lines are in the order of
their positions, no block is out of reach.  Reach cannot be left out: a block of a later function
that stands first hides the lines of the function before it. -/

namespace GoCoverage.Report

open Go (Declaration)
open Profile (Block)

variable {text source file : String} {declarations : List Declaration}

/-- The classes of a source that is in the grammar have the methods of its declarations, each with
the lines that the blocks in the reach of its declaration give it. -/
theorem forall₂_methods_of_declarations (parsed : Go.declarations? source = some declarations)
    (grouping : Grouping) (blocks : List Block) {c : Class}
    (h : c ∈ classesOf file grouping
      (declarations.zip (scanBlocks (declarations.map (·.toSpan)) blocks))) :
    List.Forall₂
      (fun declaration method => method.IsOf declaration ∧
        method.lines.Least (countsInReach declaration.toSpan blocks))
      (declarations.filter (classNameOf grouping file · == c.name)) c.methods := by
  have tables : List.Forall₂
      (fun declaration lines => lines.Least (countsInReach declaration.toSpan blocks))
      declarations (scanBlocks (declarations.map (·.toSpan)) blocks) := by
    rw [scanBlocks_eq_map (Go.declarations_ordered parsed), List.map_map,
      List.forall₂_map_right_iff, List.forall₂_same]
    intro declaration _
    exact least_linesOfSpan declaration.toSpan blocks
  rw [(eq_classNamed_of_mem h).2]
  exact forall₂_methodsNamed tables c.name

/-- **What the methods of a profile's file list.**  Take any text that is accepted, its block lines
in any order, and any source that is in the grammar.  The methods of the classes are the
declarations, and a method has a line if a block of the file covers it that overlaps the declaration
and is in its reach; the hits of the line are the smallest count of all such blocks, wherever they
stand in the text.  If the blocks of the file are in the order of their positions, all blocks that
overlap a declaration are in its reach. -/
theorem methods_of_parsed_profile {profiles : List Profile} {profile : Profile}
    (read : Profile.parse text = .ok profiles) (member : profile ∈ profiles)
    (parsed : Go.declarations? source = some declarations) (file : String) (grouping : Grouping) :
    ∃ classes, classes? file source profile.blocks grouping = some classes ∧
      classes.map (·.name) = classNames grouping file declarations ∧
      (∀ c ∈ classes,
        List.Forall₂
          (fun declaration method => method.IsOf declaration ∧ ∀ number,
            let blocks := Profile.blocksOf text profile.file
            let counts := countsInReach declaration.toSpan blocks number
            ((method.lines.get? number).isSome ↔ counts.Nonempty) ∧
              ∀ hits, method.lines.get? number = some hits ↔ IsLeast counts hits)
          (declarations.filter (classNameOf grouping file · == c.name)) c.methods) ∧
      ((Profile.blocksOf text profile.file).Pairwise (·.start ≤ ·.start) →
        ∀ declaration ∈ declarations, ∀ number,
          countsInReach declaration.toSpan (Profile.blocksOf text profile.file) number =
            countsInSpan declaration.toSpan (Profile.blocksOf text profile.file) number) := by
  rw [Profile.blocks_of_mem_parse read member]
  generalize Profile.blocksOf text profile.file = blocks
  have tables : (scanBlocks (declarations.map (·.toSpan)) blocks).length =
      declarations.length := by
    rw [length_scanBlocks, List.length_map]
  refine ⟨_, by rw [classes?, parsed, Option.map_some], ?_, ?_, ?_⟩
  · rw [map_name_classesOf, List.map_fst_zip tables.ge]
  · intro c isClass
    refine (forall₂_methods_of_declarations parsed grouping blocks isClass).imp ?_
    rintro declaration method ⟨isOf, least⟩
    exact ⟨isOf, fun number => ⟨(least number).isSome_iff, least number⟩⟩
  · intro sorted declaration _ number
    exact countsInReach_eq_of_sorted sorted declaration.toSpan number

/-- Two functions, each on a line of its own. -/
def twoFunctions : String := "func A(){}\nfunc B(){}"

/-- The declarations of the two functions. -/
def twoDeclarations : List Declaration :=
  [⟨⟨⟨1, 1⟩, ⟨1, 11⟩⟩, "A", none, "()"⟩, ⟨⟨⟨2, 1⟩, ⟨2, 11⟩⟩, "B", none, "()"⟩]

theorem declarations_twoFunctions : Go.declarations? twoFunctions = some twoDeclarations := by
  decide +kernel

/-- A profile with a block that reaches over both functions, and one in the second function. -/
def overBoth : String := "mode: count\nf:1.10,2.11 2 4\nf:2.10,2.11 1 2\n"

theorem methods_of_parsed_profile_twoFunctions :
    ∃ profile, Profile.parse overBoth = .ok [profile] ∧
      Go.declarations? twoFunctions = some twoDeclarations ∧
      (Profile.blocksOf overBoth profile.file).Pairwise (·.start ≤ ·.start) ∧
      ∃ classes, classes? "f" twoFunctions profile.blocks .byType = some classes ∧
        classes.map (·.name) = ["-"] ∧
        (∀ c ∈ classes,
          List.Forall₂
            (fun declaration method => method.IsOf declaration ∧ ∀ number,
              let blocks := Profile.blocksOf overBoth "f"
              let counts := countsInReach declaration.toSpan blocks number
              ((method.lines.get? number).isSome ↔ counts.Nonempty) ∧
                ∀ hits, method.lines.get? number = some hits ↔ IsLeast counts hits)
            (twoDeclarations.filter (classNameOf .byType "f" · == c.name)) c.methods) ∧
        ∀ declaration ∈ twoDeclarations, ∀ number,
          countsInReach declaration.toSpan (Profile.blocksOf overBoth "f") number =
            countsInSpan declaration.toSpan (Profile.blocksOf overBoth "f") number := by
  have read : Profile.parse overBoth =
    .ok [⟨"f", .count, [⟨⟨⟨1, 10⟩, ⟨2, 11⟩⟩, 2, 4⟩, ⟨⟨⟨2, 10⟩, ⟨2, 11⟩⟩, 1, 2⟩]⟩] := rfl
  have sorted : (Profile.blocksOf overBoth "f").Pairwise (·.start ≤ ·.start) := by
    rw [← Profile.blocks_of_mem_parse read List.mem_cons_self]
    decide
  obtain ⟨classes, made, names, methods, inOrder⟩ := methods_of_parsed_profile read
    List.mem_cons_self declarations_twoFunctions "f" .byType
  exact ⟨_, read, declarations_twoFunctions, sorted, classes, made, names.trans (by decide),
    methods, inOrder sorted⟩

/-- The first function is recorded after the second one. -/
def secondThenFirst : Profile :=
  ⟨"f", .set, [⟨⟨⟨2, 1⟩, ⟨2, 2⟩⟩, 1, 1⟩, ⟨⟨⟨1, 1⟩, ⟨1, 2⟩⟩, 1, 1⟩]⟩

/-- **A block out of order hides lines.**  The first function has no line, although a block that
overlaps it covers one. -/
theorem hidden_by_later_block :
    Profile.parse "mode: set\nf:2.1,2.2 1 1\nf:1.1,1.2 1 1\n" = .ok [secondThenFirst] ∧
      Go.declarations? twoFunctions = some twoDeclarations ∧
      ∃ classes, classes? "f" twoFunctions secondThenFirst.blocks .byType = some classes ∧
        ∃ c ∈ classes, ∃ method ∈ c.methods, ∃ declaration ∈ twoDeclarations,
          method.IsOf declaration ∧ method.lines.get? 1 = none ∧
          1 ∈ countsInSpan declaration.toSpan secondThenFirst.blocks 1 := by
  refine ⟨rfl, declarations_twoFunctions, _,
    by rw [classes?, declarations_twoFunctions, Option.map_some], ?_⟩
  refine ⟨_, .head _, _, .head _, _, .head _, ⟨rfl, rfl⟩, rfl, ?_⟩
  exact ⟨⟨⟨⟨1, 1⟩, ⟨1, 2⟩⟩, 1, 1⟩, .tail _ (.head _), by decide, by decide, by decide,
    by decide, rfl⟩

end GoCoverage.Report
