import GoCoverage.Go.Grammar.Statements

/-! # The grammar of Go source

The rules tied together: a construct is read by its rule, whose references to other constructs are
read by the same rules with less fuel.  No rule refers to another without reading something more
often than there are rules in a chain, so fuel in proportion to the length of the text never runs
out before the text does. -/

namespace GoCoverage.Go

/-- The rule of each construct, given the reader of the constructs it refers to. -/
def Construct.rule (read : Reader) : Construct → Scanner Reading
  | .expression context => Grammar.expression read context
  | .unary context => Grammar.unary read context
  | .operators context sofar => Grammar.operators read context sofar
  | .suffixes context sofar => Grammar.suffixes read context sofar
  | .moreItems => Grammar.moreItems read
  | .elements => Grammar.elements read
  | .arguments => Grammar.arguments read
  | .moreTypedArguments => Grammar.moreTypedArguments read
  | .values context => Grammar.values read context
  | .type lineEnds => Grammar.type read lineEnds
  | .constraint lineEnds => Grammar.constraint read lineEnds
  | .typeArguments => Grammar.typeArguments read
  | .typeParameters => Grammar.typeParameters read
  | .parameters => Grammar.parameters read
  | .moreParameters => Grammar.moreParameters read
  | .fields => Grammar.fields read
  | .interfaceElements => Grammar.interfaceElements read
  | .statement => Grammar.statement read
  | .sequence => Grammar.sequence read
  | .block => Grammar.block read
  | .conditional => Grammar.conditional read
  | .clauses kind => Grammar.clauses read kind
  | .constantGroup => Grammar.group (Grammar.constantSpecification read) (read .constantGroup)
  | .variableGroup => Grammar.group (Grammar.variableSpecification read) (read .variableGroup)
  | .typeGroup => Grammar.group (Grammar.typeSpecification read) (read .typeGroup)

/-- Reads a construct whose parts are nested at most `fuel` deep. -/
def Construct.read : Nat → Reader
  | 0 => fun _ => Scanner.fail
  | fuel + 1 => fun construct => (construct.rule (Construct.read fuel)).distinct

/-- Enough fuel for any construct of the text. -/
def fuelFor (text : List Char) : Nat := 8 * text.length + 32

end GoCoverage.Go
