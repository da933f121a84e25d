import GoCoverage.Proofs.Attribution.Scan
import GoCoverage.Proofs.Go.Receivers
import GoCoverage.Proofs.Report.Classes

/-! # Declarations sorted into classes

The classes of a file part its declarations: there is a class for each name that a declaration has,
in the order in which the names occur first, and a declaration is a method of the class with its
name and of no other, as often as it is declared (`Partitions`).  By type, the name is that of the
receiver's type as it stands in the source, pointer or not, and functions share one class; by file,
there is one class for all declarations (`classes_partition`). -/

namespace GoCoverage.Report

open Go (Declaration)
open Profile (Block)

variable {file source : String} {grouping : Grouping} {blocks : List Block}
variable {declarations : List Declaration} {tables : List (Declaration × Lines)}

/-- The method is that of a declaration, with the lines that the declaration has. -/
def Method.IsFor (method : Method) (table : Declaration × Lines) : Prop :=
  method.IsOf table.1 ∧ method.lines = table.2

/-- Classes that hold declarations, sorted by the names of their classes. -/
structure Partitions (grouping : Grouping) (file : String) (tables : List (Declaration × Lines))
    (classes : List Class) : Prop where
  /-- The classes have the names that occur, in the order in which they occur first. -/
  names : classes.map (·.name) = classNames grouping file (tables.map (·.1))
  distinct : (classes.map (·.name)).Nodup
  files : ∀ c ∈ classes, c.file = file
  nonempty : ∀ c ∈ classes, c.methods ≠ []
  /-- The methods of a class are the declarations with its name, in their order. -/
  methods : ∀ c ∈ classes, List.Forall₂ (fun table method => Method.IsFor method table)
    (tables.filter fun table => classNameOf grouping file table.1 == c.name) c.methods
  /-- Every declaration has its class. -/
  covers : ∀ table ∈ tables, ∃! c, c ∈ classes ∧ c.name = classNameOf grouping file table.1
  /-- Taken together, the methods are all declarations, each as often as it is declared. -/
  once : (classes.flatMap (·.methods)).Perm (tables.map fun table => methodOf table.1 table.2)

/-! ## Classes by name -/

theorem partitions_classesOf (grouping : Grouping) (file : String)
    (tables : List (Declaration × Lines)) :
    Partitions grouping file tables (classesOf file grouping tables) where
  names := map_name_classesOf
  distinct := map_name_classesOf ▸ nodup_classNames
  files c member := by
    rw [(eq_classNamed_of_mem member).2]
    rfl
  nonempty c member := by
    obtain ⟨isName, isNamed⟩ := eq_classNamed_of_mem member
    obtain ⟨declaration, isDeclared, named⟩ := List.mem_map.mp (List.mem_eraseDups.mp isName)
    obtain ⟨table, isTable, rfl⟩ := List.mem_map.mp isDeclared
    have isMethod : methodOf table.1 table.2 ∈ (classNamed grouping file tables c.name).methods :=
      List.mem_map_of_mem (List.mem_filter.mpr ⟨isTable, beq_iff_eq.mpr named⟩)
    rw [isNamed]
    exact List.ne_nil_of_mem isMethod
  methods c member := by
    rw [(eq_classNamed_of_mem member).2]
    show List.Forall₂ _ _ (List.map _ _)
    rw [List.forall₂_map_right_iff]
    exact List.forall₂_same.mpr fun table _ => ⟨⟨rfl, rfl⟩, rfl⟩
  covers table member := by
    have isName : classNameOf grouping file table.1 ∈
        classNames grouping file (tables.map (·.1)) :=
      List.mem_eraseDups.mpr (List.mem_map_of_mem (List.mem_map_of_mem member))
    refine ⟨classNamed grouping file tables (classNameOf grouping file table.1), ⟨?_, rfl⟩, ?_⟩
    · rw [classesOf_eq]
      exact List.mem_map_of_mem isName
    · rintro c ⟨isClass, named⟩
      rw [(eq_classNamed_of_mem isClass).2, named]
  once := perm_methods_classesOf

/-! ## Names by receiver -/

/-- A declaration has its name by the receiver that stands behind its word in the source. -/
structure NamedByReceiver (source : String) (declaration : Declaration) (name : String) : Prop where
  stands : ∃ after, declaration.StandsBefore source.toList after
  /-- Functions share one name. -/
  function : ∀ after, declaration.StandsBefore source.toList after →
    (∀ inside, Go.afterBlanks false after ≠ '(' :: inside) → name = functionClass
  /-- A type and the pointers to it share the type's name, whatever blanks are behind a star. -/
  type : ∀ after, declaration.StandsBefore source.toList after → ∀ stars blanks type,
    Go.receiverType? (Go.sourceReader source.toList) after = some (stars ++ blanks ++ type) →
    (∀ c ∈ stars, c = '*') → (∀ c ∈ blanks, Text.isBlank c) → Go.IsBase type →
    name = String.ofList type
  /-- A type of one word is known by the word. -/
  word : ∀ after, declaration.StandsBefore source.toList after → ∀ type,
    Go.ReceivesWord type after → Go.typeKeywords.contains (String.ofList type) = false →
    name = String.ofList type

theorem namedByReceiver (parsed : Go.declarations? source = some declarations)
    {declaration : Declaration} (member : declaration ∈ declarations) (file : String) :
    NamedByReceiver source declaration (classNameOf .byType file declaration) where
  stands := by
    obtain ⟨after, stands, -⟩ := Declaration.exists_standsBefore parsed member
    exact ⟨after, stands⟩
  function after stands isFunction := by
    rw [classNameOf, Grouping.key, stands.receiver_of_function parsed member isFunction]
    rfl
  type after stands stars blanks type isType onlyStars onlyBlanks base := by
    rw [classNameOf, Grouping.key,
      stands.receiver_of_type parsed member isType onlyStars onlyBlanks base]
    rfl
  word after stands type isWord free := by
    rw [classNameOf, Grouping.key, stands.receiver_of_word parsed member isWord free]
    rfl

/-! ## The classes of a source -/

/-- **The classes of a source part its declarations.**  Every source that is in the grammar has
classes, whatever its blocks are.  Each declaration brings its own lines, and is a method of one
class, the one with its name: by type, the name of its receiver's type; by file, that of the only
class. -/
theorem classes_partition (parsed : Go.declarations? source = some declarations) (file : String)
    (blocks : List Block) (grouping : Grouping) :
    ∃ classes, classes? file source blocks grouping = some classes ∧
      (scanBlocks (declarations.map (·.toSpan)) blocks).length = declarations.length ∧
      Partitions grouping file (declarations.zip (scanBlocks (declarations.map (·.toSpan)) blocks))
        classes ∧
      (grouping = .byType → ∀ declaration ∈ declarations,
        NamedByReceiver source declaration (classNameOf grouping file declaration)) ∧
      (grouping = .byFile →
        classes.map (·.name) = if declarations.isEmpty then [] else [dotted file]) := by
  have tables : (scanBlocks (declarations.map (·.toSpan)) blocks).length = declarations.length := by
    rw [length_scanBlocks, List.length_map]
  have partitions := partitions_classesOf grouping file
    (declarations.zip (scanBlocks (declarations.map (·.toSpan)) blocks))
  refine ⟨_, by rw [classes?, parsed, Option.map_some], tables, partitions, ?_, ?_⟩
  · rintro rfl declaration member
    exact namedByReceiver parsed member file
  · rintro rfl
    rw [partitions.names, List.map_fst_zip (Nat.le_of_eq tables.symm), classNames_byFile]

/-- Functions and methods of a type in turn, one by pointer, and a name that is declared twice. -/
def mixedSource : String :=
  "package p\nfunc init() {}\nfunc (t T) A() {}\nfunc init() {}\nfunc (t * T) B() {}\n"

theorem classes_partition_mixed :
    ∃ declarations classes, Go.declarations? mixedSource = some declarations ∧
      classes? "m/a.go" mixedSource [] .byType = some classes ∧
      classes.map (fun c => (c.name, c.methods.map (·.name))) =
        [("-", ["init", "init"]), ("T", ["A", "B"])] ∧
      Partitions .byType "m/a.go" (declarations.zip (scanBlocks (declarations.map (·.toSpan)) []))
        classes ∧
      ∀ declaration ∈ declarations,
        NamedByReceiver mixedSource declaration (classNameOf .byType "m/a.go" declaration) := by
  obtain ⟨declarations, parsed, -⟩ : ∃ declarations, Go.declarations? mixedSource =
      some declarations ∧ declarations.map (·.name) = ["init", "A", "init", "B"] :=
    Option.map_eq_some_iff.mp (by decide +kernel)
  obtain ⟨classes, isClasses, named⟩ : ∃ classes, classes? "m/a.go" mixedSource [] .byType =
      some classes ∧ classes.map (fun c => (c.name, c.methods.map (·.name))) =
        [("-", ["init", "init"]), ("T", ["A", "B"])] :=
    Option.map_eq_some_iff.mp (by decide +kernel)
  obtain ⟨_, same, _, partitions, byReceiver, _⟩ :=
    classes_partition parsed "m/a.go" [] .byType
  cases isClasses.symm.trans same
  exact ⟨declarations, classes, parsed, isClasses, named, partitions, byReceiver rfl⟩

end GoCoverage.Report
