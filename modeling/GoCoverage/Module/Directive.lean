import GoCoverage.Files.Path
import GoCoverage.Text.Blank
import GoCoverage.Text.Split

/-! # The module directive

A module file names the module's path in its `module` directive, perhaps between quotes.  Comments
begin with two slashes.  The first line that is such a directive counts. -/

namespace GoCoverage.Module

open Text

/-- The line without a comment at its end. -/
def beforeComment : List Char → List Char
  | [] => []
  | '/' :: '/' :: _ => []
  | c :: rest => c :: beforeComment rest

/-- The text without the quotes around it. -/
def trimQuotes (text : List Char) : List Char :=
  ((text.dropWhile (· == '"')).reverse.dropWhile (· == '"')).reverse

/-- The word that begins a module directive. -/
def directiveWord : List Char := "module".toList

/-- The path that a line names, if it is a module directive.  The word is set off by a blank or a
tab, and an empty path is none. -/
def pathOfLine? (line : List Char) : Option (List Char) :=
  let directive := trim (beforeComment line)
  if directiveWord.isPrefixOf directive then
    let rest := directive.drop directiveWord.length
    match rest with
    | ' ' :: _ | '\t' :: _ =>
      match trimQuotes (trim rest) with
      | [] => none
      | path => some path
    | _ => none
  else none

/-- The module path that the text of a module file names. -/
def modulePath? (text : String) : Option String :=
  ((linesOf '\n' text.toList).findSome? pathOfLine?).map String.ofList

end GoCoverage.Module
