import GoCoverage.Pattern.Basic

/-! # Generated files

Tools that write Go files say so in a line of their own, which is a comment of a fixed form. -/

namespace GoCoverage.Pattern

/-- What a line that says so begins with. -/
def bannerStart : List Char := "// Code generated ".toList

/-- What a line that says so ends with. -/
def bannerEnd : List Char := " DO NOT EDIT.".toList

/-- A line that says that the file is generated. -/
def generated : Pattern :=
  sequenceOf [
    place .startOfLine,
    literal bannerStart,
    repeated (one notLineFeed) 0 none,
    literal bannerEnd,
    place .endOfLine]

end GoCoverage.Pattern
