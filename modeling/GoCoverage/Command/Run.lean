import GoCoverage.Command.Help
import GoCoverage.Files.Tree

/-! # Running the program

A run reads the command line, the profile and the module, and then delivers the report in one piece,
either to standard output or to a file.  All that can fail comes before the delivery, so a run that
fails has written nothing. -/

namespace GoCoverage.Command

/-- How a run ends, but for writing the report to a file. -/
inductive Ending where
  /-- The command line does not fit. -/
  | misused
  /-- The words for what went wrong, from the outermost to the innermost. -/
  | failed (chain : List String)
  /-- A text for standard output. -/
  | printed (text : String)
  /-- A text for the file at a path. -/
  | delivered (path text : String)
deriving DecidableEq, Repr

/-- The text of the profile, from a file or from standard input. -/
def profileText (files : Files) (stdin : List UInt8) : Option String → Except (List String) String
  | some path =>
    (files.readText path).mapError fun fault => [s!"Failed to read {path}", fault.message]
  | none =>
    match Text.decode? stdin with
    | some text => .ok text
    | none =>
      .error ["Failed to read coverage profile from stdin", Files.Fault.notText.message]

/-- What a request leads to. -/
def answer (files : Files) (stdin : List UInt8) (timestamp : Int) : Request → Ending
  | .version => .printed versionText
  | .help topic => .printed (helpText topic)
  | .coverage input output options =>
    match profileText files stdin input with
    | .error chain => .failed chain
    | .ok profile =>
      match coverage files options timestamp profile with
      | .error trouble => .failed trouble.chain
      | .ok report =>
        match output with
        | some path => .delivered path report
        | none => .printed report

/-- What a command line leads to. -/
def ending (files : Files) (stdin : List UInt8) (timestamp : Int) (arguments : List String) :
    Ending :=
  match Request.ofArguments? arguments with
  | none => .misused
  | some request => answer files stdin timestamp request

/-! ## What is seen of a run -/

/-- The lines of a text after the first, set off by blanks. -/
def indented (margin : String) (text : String) : String :=
  ("\n" ++ margin).intercalate ((text.toList.splitOn '\n').map String.ofList)

/-- The causes of a failure; they are numbered if there is more than one. -/
def causes : List String → String
  | [] => ""
  | [cause] => "\n\nCaused by:\n    " ++ indented "    " cause
  | chain =>
    "\n\nCaused by:" ++ String.join (chain.zipIdx.map fun (cause, number) =>
      let label := toString number
      "\n" ++ "".pushn ' ' (5 - label.length) ++ label ++ ": " ++ indented "       " cause)

/-- The words for a failure on standard error. -/
def complaint : List String → String
  | [] => "Error: \n"
  | message :: chain => "Error: " ++ message ++ causes chain ++ "\n"

/-- What is seen of a run. -/
structure Outcome where
  exit : Nat
  stdout : String
  stderr : String
deriving DecidableEq, Repr

namespace Outcome

/-- A run that went well and printed a text. -/
def printed (text : String) : Outcome where
  exit := 0
  stdout := text
  stderr := ""

/-- A run that failed. -/
def failed (chain : List String) : Outcome where
  exit := 1
  stdout := ""
  stderr := complaint chain

/-- A run that was not asked for in a fit way. -/
def misused : Outcome where
  exit := 2
  stdout := ""
  stderr := "error: see --help for the usage\n"

end Outcome

/-- The words for a file that cannot be written. -/
def writeChain (path : String) (fault : Files.Fault) : List String :=
  [s!"Failed to write {path}", fault.message]

/-- What is seen of a run on a file tree, and the tree after it. -/
def run (tree : Files.Tree) (stdin : List UInt8) (timestamp : Int) (arguments : List String) :
    Outcome × Files.Tree :=
  match ending tree.files stdin timestamp arguments with
  | .misused => (.misused, tree)
  | .failed chain => (.failed chain, tree)
  | .printed text => (.printed text, tree)
  | .delivered path text =>
    match tree.write path text with
    | .error fault => (.failed (writeChain path fault), tree)
    | .ok tree => (.printed "", tree)

end GoCoverage.Command
