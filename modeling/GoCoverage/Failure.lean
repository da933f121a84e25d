import GoCoverage.Files.Access
import GoCoverage.Profile.Fault

/-! # Failures

Why there is no report.  A failure names its cause; the words for it are chosen here and nowhere
else. -/

namespace GoCoverage

/-- Why there is no report. -/
inductive Failure where
  /-- A line of the profile is not as it should be. -/
  | malformedProfile (line : Nat) (cause : Profile.Cause)
  /-- The profile is no text. -/
  | undecodableProfile
  | invalidPattern (pattern : String)
  /-- A source file is not in the grammar. -/
  | unparsableSource (file : String)
  /-- No package of the module holds the file. -/
  | packageNotFound (file : String)
  /-- A file cannot be read. -/
  | unreadable (path : String) (fault : Files.Fault)
deriving DecidableEq, Repr

namespace Failure

/-- The failure that a fault of the profile is. -/
def ofProfile : Profile.Fault → Failure
  | .malformed line cause => malformedProfile line cause
  | .undecodable => undecodableProfile

/-- The words for a failure. -/
def message : Failure → String
  | malformedProfile line cause => s!"Malformed coverage profile at line {line}: {cause.message}"
  | undecodableProfile => s!"Failed to read coverage profile: {Files.Fault.notText.message}"
  | invalidPattern pattern => s!"Invalid pattern '{pattern}'"
  | unparsableSource file => s!"Failed to parse Go source {file}"
  | packageNotFound file => s!"No package found for {file}"
  | unreadable path fault => s!"I/O error reading {path}: {fault.message}"

/-- The words for what is behind a failure, if that has words of its own. -/
def reasons : Failure → List String
  | undecodableProfile => [Files.Fault.notText.message]
  | unreadable _ fault => [fault.message]
  | _ => []

end Failure

end GoCoverage
