import Exposition.MetricType
import Exposition.Sample

/-! # Lines

Each line of exposition text is blank, a comment, a help line, a type line or a sample, judged on
its own. A line that is none of these is rejected at one place, with what was expected there.
-/

namespace Exposition

inductive Line where
  | blank
  | comment
  | help (name text : String)
  | type (name : String) (type : MetricType)
  | sample (sample : Sample)
  deriving DecidableEq

/-- What would have continued a line where reading it stopped. -/
inductive Expectation where
  | metricName
  | metricType
  | knownMetricType
  | sampleValue
  | timestampInRange
  | equalsSign
  | labelValue
  | closingQuote
  | commaOrBrace
  | uniqueLabelNames
  | helpText
  | endOfLine
  | validLine
  deriving DecidableEq, Repr

def Expectation.describe : Expectation → String
  | metricName => "metric name"
  | metricType => "metric type"
  | knownMetricType => "one of counter, gauge, histogram, summary, untyped"
  | sampleValue => "sample value"
  | timestampInRange => "timestamp within 64-bit range"
  | equalsSign => "'='"
  | labelValue => "quoted label value"
  | closingQuote => "closing '\"'"
  | commaOrBrace => "',' or '\x7d'"
  | uniqueLabelNames => "unique label names"
  | helpText => "help text"
  | endOfLine => "end of line"
  | validLine => "valid syntax"

/-- Why a line is rejected: what was expected in front of the rest of the line. -/
structure Rejection where
  expected : Expectation
  rest : List Char
  deriving DecidableEq, Repr

/-- The place of a rejection in its line, counted in characters from 1. -/
def Rejection.column (r : Rejection) (line : List Char) : Nat := line.length - r.rest.length + 1

/-- Where `read?` finds nothing, the line is rejected for want of `expected`. -/
def expect {α : Type} (expected : Expectation) (read? : List Char → Option (α × List Char))
    (cs : List Char) : Except Rejection (α × List Char) :=
  match read? cs with
  | some result => .ok result
  | none => .error ⟨expected, cs⟩

/-- The line has to end here. -/
def expectEnd (expected : Expectation) (cs : List Char) : Except Rejection Unit :=
  if cs.isEmpty then .ok () else .error ⟨expected, cs⟩

end Exposition
