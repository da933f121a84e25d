import GoCoverage.Command.Arguments

/-! # Help

What is printed for those who ask for help or for the version. -/

namespace GoCoverage.Command

/-- The name of the program and its version. -/
def versionText : String := "gocobertura 0.1.0\n"

/-- Lines of text, each ended. -/
def textOfLines (lines : List String) : String := String.join (lines.map (· ++ "\n"))

/-- What the program is for, and its commands. -/
def programHelp : String := textOfLines [
  "Convert Go coverage profiles into Cobertura reports",
  "",
  "Usage: gocobertura <COMMAND>",
  "",
  "Commands:",
  "  coverage  Convert a `go test -coverprofile` file into a coverage report",
  "  help      Print this message or the help of the given subcommand(s)",
  "",
  "Options:",
  "  -h, --help     Print help",
  "  -V, --version  Print version"]

/-- What a report can be given. -/
def coverageHelp : String := textOfLines [
  "Convert a `go test -coverprofile` file into a coverage report",
  "",
  "Usage: gocobertura coverage [OPTIONS]",
  "",
  "Options:",
  "  -i, --input <INPUT>",
  "          Coverage profile to read (default: stdin)",
  "  -o, --output <OUTPUT>",
  "          Where to write the report (default: stdout)",
  "      --module-root <MODULE_ROOT>",
  "          Directory containing the module's go.mod [default: .]",
  "      --by-files",
  "          Code coverage by file, not by receiver type",
  "      --ignore-gen-files",
  "          Ignore files carrying a \"Code generated ... DO NOT EDIT.\" banner",
  "      --ignore-dirs <IGNORE_DIRS>",
  "          Ignore files whose directory matches this regexp",
  "      --ignore-files <IGNORE_FILES>",
  "          Ignore files whose name matches this regexp",
  "      --ignore-paths <IGNORE_PATHS>",
  "          Ignore files whose module-relative path matches this regexp",
  "      --ignore-content <IGNORE_CONTENT>",
  "          Ignore files whose content matches this regexp",
  "      --format <FORMAT>",
  "          Report format [default: xml] [possible values: xml, json]",
  "  -h, --help",
  "          Print help"]

/-- What help can be asked for. -/
def helpHelp : String := textOfLines [
  "Print this message or the help of the given subcommand(s)",
  "",
  "Usage: gocobertura help [COMMAND]...",
  "",
  "Arguments:",
  "  [COMMAND]...  Print help for the subcommand(s)"]

/-- The text on a topic. -/
def helpText : Topic → String
  | .program => programHelp
  | .coverage => coverageHelp
  | .help => helpHelp

end GoCoverage.Command
