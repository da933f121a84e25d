import GoCoverage.Profile.Mode

/-! # What can be wrong with a profile

A profile is refused at its first line that is not as it should be.  The fault names that line and
what is wrong with it. -/

namespace GoCoverage.Profile

/-- The numbers of a block line, in their order. -/
inductive Quantity where
  | startLine
  | startColumn
  | endLine
  | endColumn
  | statements
  | executions
deriving DecidableEq, Repr

/-- The words for a number of a block line. -/
def Quantity.name : Quantity → String
  | startLine => "start line"
  | startColumn => "start column"
  | endLine => "end line"
  | endColumn => "end column"
  | statements => "statement count"
  | executions => "execution count"

/-- What is wrong with a line. -/
inductive Cause where
  | unknownMode (word : String)
  /-- The mode is declared a second time. -/
  | repeatedMode
  /-- A block stands before any mode, or the profile ends without one. -/
  | missingMode
  /-- The line has not the form of a block. -/
  | notABlock (line : String)
  /-- The text is no number in the range of the quantity. -/
  | outOfRange (quantity : Quantity) (text : String)
  | notPositive (quantity : Quantity)
  /-- The number of statements is a number, but too large a one. -/
  | tooManyStatements
deriving DecidableEq, Repr

/-- The words for what is wrong with a line. -/
def Cause.message : Cause → String
  | unknownMode word => Mode.unknownMessage word
  | repeatedMode => "repeated 'mode:' header"
  | missingMode => "missing 'mode:' header"
  | notABlock line => s!"expected 'file:line.col,line.col statements count', got '{line}'"
  | outOfRange quantity text => s!"{quantity.name} '{text}' is out of range"
  | notPositive quantity => s!"{quantity.name} must be positive"
  | tooManyStatements => s!"{Quantity.statements.name} is out of range"

/-- Why a profile is refused. -/
inductive Fault where
  /-- A line, counted from one, is not as it should be. -/
  | malformed (line : Nat) (cause : Cause)
  /-- The bytes of a line are no text. -/
  | undecodable
deriving DecidableEq, Repr

end GoCoverage.Profile
