import GoCoverage.Proofs.Discovery
import GoCoverage.Report.Grouping
import Mathlib.Data.List.Forall2

/-! # The classes of a file

A file is turned into classes by gathering its declarations by the name of their class.  So the
classes are named by the names that occur, each once and in the order of the first declarations
(`classesOf_eq`), and the methods of a class are the declarations with its name in the order of the
source, each with its own lines (`forall₂_methodsNamed`). -/

namespace GoCoverage.Report

open Go (Declaration)

variable {file : String} {grouping : Grouping} {tables : List (Declaration × Lines)}
variable {declarations : List Declaration}

/-! ## Names and methods -/

/-- The name of the class that a declaration belongs to. -/
def classNameOf (grouping : Grouping) (file : String) (declaration : Declaration) : String :=
  grouping.key declaration.receiver file

/-- The names of the classes of a file, in the order in which they occur first. -/
def classNames (grouping : Grouping) (file : String) (declarations : List Declaration) :
    List String :=
  (declarations.map (classNameOf grouping file)).eraseDups

theorem nodup_classNames : (classNames grouping file declarations).Nodup :=
  nodup_eraseDups _

/-- The methods that go into the class with a name. -/
def methodsNamed (grouping : Grouping) (file name : String)
    (tables : List (Declaration × Lines)) : List Method :=
  (tables.filter fun table => classNameOf grouping file table.1 == name).map fun table =>
    methodOf table.1 table.2

/-- The class of a file with a name, before its rate has been computed. -/
def classNamed (grouping : Grouping) (file : String) (tables : List (Declaration × Lines))
    (name : String) : Class :=
  { Class.empty name file with methods := methodsNamed grouping file name tables }

theorem foldl_addMethod (c : Class) (list : List (Declaration × Lines)) :
    list.foldl (fun c table => c.addMethod (methodOf table.1 table.2)) c =
      { c with methods := c.methods ++ list.map fun table => methodOf table.1 table.2 } := by
  induction list generalizing c with
  | nil => simp
  | cons table list ih => rw [List.foldl_cons, ih]; simp [Class.addMethod]

/-- **The classes of a file are named by what occurs, and hold what has their name.** -/
theorem classesOf_eq (file : String) (grouping : Grouping) (tables : List (Declaration × Lines)) :
    classesOf file grouping tables =
      (classNames grouping file (tables.map (·.1))).map (classNamed grouping file tables) := by
  have gathered := foldl_changeOrAdd (fun table => classNameOf grouping file table.1) Class.name
    (fun name => .empty name file) (fun c table => c.addMethod (methodOf table.1 table.2))
    (fun _ => rfl) (fun _ _ => rfl) tables
  rw [classNames, List.map_map]
  refine gathered.trans (List.map_congr_left fun name _ => ?_)
  rw [foldl_addMethod]
  rfl

/-- A class of a file is the one with its name. -/
theorem eq_classNamed_of_mem {c : Class} (h : c ∈ classesOf file grouping tables) :
    c.name ∈ classNames grouping file (tables.map (·.1)) ∧
      c = classNamed grouping file tables c.name := by
  rw [classesOf_eq] at h
  obtain ⟨name, member, rfl⟩ := List.mem_map.mp h
  exact ⟨member, rfl⟩

theorem map_name_classesOf :
    (classesOf file grouping tables).map (·.name) =
      classNames grouping file (tables.map (·.1)) := by
  rw [classesOf_eq, List.map_map]
  exact List.map_id _

theorem classNames_byFile (file : String) (declarations : List Declaration) :
    classNames .byFile file declarations = if declarations.isEmpty then [] else [dotted file] :=
  eraseDups_map_const _ _

/-- Taken together, the classes have the methods with their names. -/
theorem flatMap_methods_classesOf : (classesOf file grouping tables).flatMap (·.methods) =
    ((classNames grouping file (tables.map (·.1))).flatMap fun name =>
      tables.filter fun table => classNameOf grouping file table.1 == name).map fun table =>
        methodOf table.1 table.2 := by
  rw [classesOf_eq, List.flatMap_map, List.map_flatMap]
  rfl

/-- **A grouping sorts the methods of a file into classes.** -/
theorem perm_methods_classesOf :
    ((classesOf file grouping tables).flatMap (·.methods)).Perm
      (tables.map fun table => methodOf table.1 table.2) := by
  rw [flatMap_methods_classesOf]
  refine List.Perm.map _ (perm_flatMap_filter nodup_classNames fun table member => ?_)
  exact List.mem_eraseDups.mpr (List.mem_map_of_mem (List.mem_map_of_mem member))

/-- One class for the whole file has the methods in the order of the source. -/
theorem methods_classesOf_byFile : (classesOf file .byFile tables).flatMap (·.methods) =
    tables.map fun table => methodOf table.1 table.2 := by
  have all :
      tables.filter (fun table => classNameOf .byFile file table.1 == dotted file) = tables :=
    List.filter_eq_self.mpr fun table _ => beq_self_eq_true _
  rw [flatMap_methods_classesOf, classNames_byFile]
  cases tables with
  | nil => rfl
  | cons table tables => rw [List.map_cons, List.isEmpty_cons, if_neg (by simp),
      List.flatMap_singleton, all]

/-! ## Classes in a package -/

/-- What a class is known by in its package. -/
structure Class.Key where
  name : String
  file : String
deriving DecidableEq

/-- What the class is known by in its package. -/
def Class.key (c : Class) : Class.Key := ⟨c.name, c.file⟩

/-- A class with a name and a file is one that is known by them. -/
theorem Class.key_beq (name file : String) :
    (fun c : Class => c.key == ⟨name, file⟩) = fun c => c.name == name && c.file == file := by
  funext c
  rw [Bool.eq_iff_iff]
  simp [Class.key]

theorem classes_changeClass {package : Package} {name file : String} {change : Class → Class} :
    (package.changeClass name file change).classes =
      changeOrAdd (fun c => c.key == ⟨name, file⟩) (.empty name file) change package.classes := by
  rw [Class.key_beq]
  rfl

theorem key_merge_refresh (known c : Class) : (known.merge c).refresh.key = known.key := by
  rw [Class.merge]
  split <;> rfl

/-! ## Methods and declarations -/

/-- A method is made from a declaration and its lines. -/
structure Method.IsOf (method : Method) (declaration : Declaration) : Prop where
  name : method.name = declaration.name
  signature : method.signature = some declaration.signature

/-- **The methods of a class are the declarations with its name, one by one.**  What holds of the
tables of the declarations holds of the lines of the methods. -/
theorem forall₂_methodsNamed {law : Declaration → Lines → Prop} {tables : List Lines}
    (laws : List.Forall₂ law declarations tables) (name : String) :
    List.Forall₂ (fun declaration method => method.IsOf declaration ∧ law declaration method.lines)
      (declarations.filter (classNameOf grouping file · == name))
      (methodsNamed grouping file name (declarations.zip tables)) := by
  induction laws with
  | nil => exact .nil
  | @cons declaration table declarations tables first _ ih =>
    by_cases named : classNameOf grouping file declaration == name
    · rw [List.filter_cons, if_pos named, methodsNamed, List.zip_cons_cons, List.filter_cons,
        if_pos named, List.map_cons]
      exact .cons ⟨⟨rfl, rfl⟩, first⟩ ih
    · rw [List.filter_cons, if_neg named, methodsNamed, List.zip_cons_cons, List.filter_cons,
        if_neg named]
      exact ih

end GoCoverage.Report
