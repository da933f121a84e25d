import GoCoverage.Attribution
import GoCoverage.Go.SourceFile
import GoCoverage.Report.Tree

/-! # Classes of a source file

The declarations of a file become the methods of classes.  Which class a declaration belongs to is a
matter of grouping: either all methods of a type make a class and all functions another, or the
whole file makes one.  Classes are listed in the order of their first declarations. -/

namespace GoCoverage.Report

open Go (Declaration)
open Profile (Block)

/-- How declarations are grouped into classes. -/
inductive Grouping where
  /-- By the type of the receiver; functions make a class of their own. -/
  | byType
  /-- One class for the file. -/
  | byFile
deriving DecidableEq, Repr

/-- The name of the class of functions without a receiver. -/
def functionClass : String := "-"

/-- The name of a file as the name of a class: separators of directories become dots. -/
def dotted (file : String) : String :=
  String.ofList (file.toList.map fun c => if c = '/' ∨ c = '\\' then '.' else c)

/-- The name of the class for a receiver's type, or for none, in a file. -/
def Grouping.key (grouping : Grouping) (receiver : Option String) (file : String) : String :=
  match grouping with
  | byType => receiver.getD functionClass
  | byFile => dotted file

/-- The method for a declaration and its lines. -/
def methodOf (declaration : Declaration) (lines : Lines) : Method :=
  .ofLines declaration.name (some declaration.signature) lines

/-- Classes with one more method, in the class with the given name. -/
def addToClass (file key : String) (classes : List Class) (method : Method) : List Class :=
  changeOrAdd (·.name == key) (.empty key file) (·.addMethod method) classes

/-- The classes of a file, from its declarations and the lines of each. -/
def classesOf (file : String) (grouping : Grouping) (tables : List (Declaration × Lines)) :
    List Class :=
  tables.foldl
    (fun classes (declaration, lines) =>
      addToClass file (grouping.key declaration.receiver file) classes (methodOf declaration lines))
    []

/-- The classes that a source text and the blocks recorded for it make, or nothing if the text is
not in the grammar. -/
def classes? (file source : String) (blocks : List Block) (grouping : Grouping) :
    Option (List Class) :=
  (Go.declarations? source).map fun declarations =>
    classesOf file grouping <|
      declarations.zip (scanBlocks (declarations.map (·.toSpan)) blocks)

end GoCoverage.Report
