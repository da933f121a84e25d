import GoCoverage.Command.Coverage

/-! # Command line arguments

A command line asks for a report, for help or for the version.  Arguments are read one by one, and
the first that does not fit makes the whole line unfit; so a request for help counts only if all
before it fits.  An option stands at most once.  Its value follows it as the next argument, or in
the same one after `=`, or directly after a short name; a value of its own cannot begin with a dash
unless it is nothing else. -/

namespace GoCoverage.Command

/-- Which part of the program is explained. -/
inductive Topic where
  | program
  | coverage
  | help
deriving DecidableEq, Repr

/-- What a command line asks for. -/
inductive Request where
  | version
  | help (topic : Topic)
  /-- A report on a profile, to be read from and written to the given files. -/
  | coverage (input output : Option String) (options : Options)
deriving DecidableEq, Repr

/-! ## Options -/

/-- What can be given for a report. -/
inductive Switch where
  | input
  | output
  | moduleRoot
  | byFiles
  | ignoreGenerated
  | ignoreDirectories
  | ignoreNames
  | ignorePaths
  | ignoreContent
  | format
  | help
deriving DecidableEq, Repr

namespace Switch

/-- All switches. -/
def all : List Switch :=
  [input, output, moduleRoot, byFiles, ignoreGenerated, ignoreDirectories, ignoreNames, ignorePaths,
    ignoreContent, format, help]

/-- The name after two dashes. -/
def long : Switch → String
  | input => "input"
  | output => "output"
  | moduleRoot => "module-root"
  | byFiles => "by-files"
  | ignoreGenerated => "ignore-gen-files"
  | ignoreDirectories => "ignore-dirs"
  | ignoreNames => "ignore-files"
  | ignorePaths => "ignore-paths"
  | ignoreContent => "ignore-content"
  | format => "format"
  | help => "help"

/-- The letter after one dash, for those that have one. -/
def short? : Switch → Option Char
  | input => some 'i'
  | output => some 'o'
  | help => some 'h'
  | _ => none

/-- The switch is followed by a value. -/
def takesValue : Switch → Bool
  | byFiles | ignoreGenerated | help => false
  | _ => true

end Switch

/-- What an argument is. -/
inductive Argument where
  /-- Two dashes: no switches follow. -/
  | stop
  /-- A name after two dashes, with a value after `=`. -/
  | long (name : String) (value : Option String)
  /-- A letter after one dash, and what follows it in the same argument. -/
  | short (letter : Char) (rest : List Char)
  | plain (text : String)
deriving DecidableEq, Repr

/-- What an argument is, by the dashes it begins with. -/
def Argument.ofText (text : String) : Argument :=
  match text.toList with
  | ['-', '-'] => stop
  | '-' :: '-' :: name =>
    match (name.dropWhile (· ≠ '=')) with
    | [] => long (String.ofList name) none
    | _ :: value => long (String.ofList (name.takeWhile (· ≠ '='))) (some (String.ofList value))
  | '-' :: letter :: rest => short letter rest
  | _ => plain text

/-- The value that stands directly after a letter, perhaps with `=` between them. -/
def attachedValue : List Char → Option String
  | [] => none
  | '=' :: value => some (String.ofList value)
  | value => some (String.ofList value)

/-- The switch that an argument gives, and the value in the same argument. -/
def Switch.ofArgument? : Argument → Option (Switch × Option String)
  | .long name value => (all.find? (·.long == name)).map (·, value)
  | .short letter rest =>
    (all.find? (·.short? == some letter)).map fun switch =>
      (switch, if switch.takesValue then attachedValue rest else none)
  | _ => none

/-! ## A request for a report -/

/-- What has been given for a report. -/
structure Given where
  switches : List Switch
  input : Option String
  output : Option String
  options : Options

namespace Given

/-- Nothing has been given. -/
def nothing : Given where
  switches := []
  input := none
  output := none
  options := .default

/-- A value that names a file or directory, which has to have a name. -/
def path? (value : String) : Option String := if value.isEmpty then none else some value

/-- The format with the given name. -/
def format? (value : String) : Option Report.Format :=
  if value = "xml" then some .xml
  else if value = "json" then some .json
  else none

/-- What has been given with the value of one more switch. -/
def set? (given : Given) (switch : Switch) (value : String) : Option Given :=
  let options := given.options
  let ignore := options.ignore
  match switch with
  | .input => (path? value).map fun path => { given with input := some path }
  | .output => (path? value).map fun path => { given with output := some path }
  | .moduleRoot =>
    (path? value).map fun path => { given with options := { options with moduleRoot := path } }
  | .byFiles => some { given with options := { options with byFiles := true } }
  | .ignoreGenerated =>
    some { given with options := { options with ignore := { ignore with generated := true } } }
  | .ignoreDirectories =>
    some { given with
      options := { options with ignore := { ignore with directories := some value } } }
  | .ignoreNames =>
    some { given with options := { options with ignore := { ignore with names := some value } } }
  | .ignorePaths =>
    some { given with options := { options with ignore := { ignore with paths := some value } } }
  | .ignoreContent =>
    some { given with options := { options with ignore := { ignore with content := some value } } }
  | .format =>
    (format? value).map fun format => { given with options := { options with format } }
  | .help => some given

/-- What has been given with one more switch, which must not have been given before. -/
def add? (given : Given) (switch : Switch) (value : String) : Option Given :=
  if given.switches.contains switch then none
  else ({ given with switches := switch :: given.switches }).set? switch value

/-- The request that has been given. -/
def request (given : Given) : Request := .coverage given.input given.output given.options

end Given

/-- A value of its own does not look like a switch. -/
def isValue (text : String) : Bool :=
  match Argument.ofText text with
  | .plain _ => true
  | _ => false

/-- The request that the arguments after `coverage` make. -/
def coverageRequest? (given : Given) : List String → Option Request
  | [] => some given.request
  | argument :: arguments =>
    match Argument.ofText argument with
    | .stop => if arguments.isEmpty then some given.request else none
    | argument =>
      match Switch.ofArgument? argument with
      | none => none
      | some (.help, none) => some (.help .coverage)
      | some (switch, attached?) =>
        match switch.takesValue, attached? with
        | false, some _ => none
        | false, none =>
          match given.add? switch "" with
          | some given => coverageRequest? given arguments
          | none => none
        | true, some value =>
          match given.add? switch value with
          | some given => coverageRequest? given arguments
          | none => none
        | true, none =>
          match arguments with
          | [] => none
          | value :: arguments =>
            if isValue value then
              match given.add? switch value with
              | some given => coverageRequest? given arguments
              | none => none
            else none

/-! ## Requests -/

/-- The request for help on a topic. -/
def helpRequest? : List String → Option Request
  | [] => some (.help .program)
  | ["coverage"] => some (.help .coverage)
  | ["help"] => some (.help .help)
  | _ => none

/-- The request that a command line makes, if it is fit. -/
def Request.ofArguments? : List String → Option Request
  | [] => none
  | argument :: arguments =>
    match Argument.ofText argument with
    | .stop => none
    | .long name value =>
      if name = "help" ∧ value = none then some (.help .program)
      else if name = "version" ∧ value = none then some .version
      else none
    | .short letter _ =>
      if letter = 'h' then some (.help .program)
      else if letter = 'V' then some .version
      else none
    | .plain text =>
      if text = "coverage" then coverageRequest? .nothing arguments
      else if text = "help" then helpRequest? arguments
      else none

end GoCoverage.Command
