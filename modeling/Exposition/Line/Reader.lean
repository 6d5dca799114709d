import Exposition.Line.LabelSet

/-! # Reading a line

Blanks in front of a line do not count. A line that starts with `#` is a help or type line if that
keyword and a blank follow, and a comment otherwise; all others are samples.
-/

namespace Exposition

/-- The rest after a keyword and one or more blanks. -/
def keyword? (word : List Char) (cs : List Char) : Option (List Char) :=
  if word.isPrefixOf cs then (blanks? (cs.drop word.length)).map (·.2) else none

/-- What follows the keyword of a help line: a name, and after one or more blanks a text that runs
    to the end of the line. The white space at its end is cut before escapes are read. -/
def helpLine (cs : List Char) : Except Rejection Line := do
  let (name, rest) ← expect .metricName metricName? cs
  match blanks? rest with
  | some ((), text) => return .help name (String.ofList (unescapeHelp (trimEnd text)))
  | none =>
    expectEnd .helpText rest
    return .help name ""

/-- What follows the keyword of a type line: a name and the keyword of a type. -/
def typeLine (cs : List Char) : Except Rejection Line := do
  let (name, rest) ← expect .metricName metricName? cs
  let ((), start) ← expect .metricType blanks? rest
  let (word, rest) ← expect .metricType word? start
  match MetricType.ofKeyword? word with
  | none => throw ⟨.knownMetricType, start⟩
  | some type =>
    expectEnd .endOfLine (skipBlanks rest)
    return .type name type

/-- What follows the `#` of a line and the blanks after it. -/
def hashLine (cs : List Char) : Except Rejection Line :=
  match keyword? ['H', 'E', 'L', 'P'] cs with
  | some rest => helpLine rest
  | none =>
    match keyword? ['T', 'Y', 'P', 'E'] cs with
    | some rest => typeLine rest
    | none => .ok .comment

/-- A blank and a timestamp, if an integer follows the blanks. -/
def timestampAfterBlanks (cs : List Char) : Except Rejection (Option Int64 × List Char) :=
  match blanks? cs with
  | none => .ok (none, cs)
  | some ((), start) => do
    match ← timestamp? start with
    | none => return (none, cs)
    | some (time, rest) => return (some time, rest)

/-- A sample line from its first character that is not blank. -/
def sampleLine (cs : List Char) : Except Rejection Sample := do
  let (name, rest) ← expect .validLine metricName? cs
  let (labels, rest) ← labels rest
  let ((), rest) ← expect .sampleValue blanks? rest
  let (value, rest) ← expect .sampleValue value? rest
  let (timestamp, rest) ← timestampAfterBlanks rest
  expectEnd .endOfLine (skipBlanks rest)
  return ⟨⟨name, labels⟩, value, timestamp⟩

/-- Reads one line, without its end. -/
def Line.read (line : List Char) : Except Rejection Line :=
  match skipBlanks line with
  | [] => .ok .blank
  | '#' :: rest => hashLine (skipBlanks rest)
  | start => (sampleLine start).map .sample

end Exposition
