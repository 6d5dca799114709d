import Exposition.Text.Spacing

/-! # Faults of patterns

A text that is no pattern has a fault at some span. The report of a fault shows the pattern with
the span marked below the line that it is in, and a second span if two places are at odds.
-/

namespace Exposition.Pattern

/-- A part of a pattern, from one character up to another, each given by how many are before it. -/
structure Span where
  start : Nat
  stop : Nat
  deriving DecidableEq, Repr

namespace Span

/-- Spans are ordered by start, then by end. -/
def atMost (s t : Span) : Bool := s.start < t.start || (s.start = t.start && s.stop ≤ t.stop)

end Span

inductive Fault.Kind where
  | backreference
  | captureNameDuplicate
  | captureNameEmpty
  | captureNameInvalid
  | captureNameUnclosed
  | classEmpty
  | classEscapeInvalid
  | classRangeInvalid
  | classRangeLiteral
  | classUnclosed
  | decimalEmpty
  | decimalInvalid
  | escapeHexEmpty
  | escapeHexInvalid
  | escapeHexInvalidDigit
  | escapeUnclosed
  | escapeUnrecognized
  | flagDanglingNegation
  | flagDuplicate
  | flagRepeatedNegation
  | flagUnclosed
  | flagUnrecognized
  | groupUnclosed
  | groupUnopened
  | invalidUtf8
  | lookAround
  | nestLimitExceeded
  | propertyInvalid
  | propertyNotFound
  | propertyValueNotFound
  | repetitionCountDecimalEmpty
  | repetitionCountInvalid
  | repetitionCountUnclosed
  | repetitionMissing
  | unicodeNotAllowed
  deriving DecidableEq, Repr

/-- How deep groups, classes, alternatives, sequences and repetitions may be nested. -/
def nestLimit : Nat := 250

def Fault.Kind.describe : Fault.Kind → String
  | backreference => "backreferences are not supported"
  | captureNameDuplicate => "duplicate capture group name"
  | captureNameEmpty => "empty capture group name"
  | captureNameInvalid => "invalid capture group character"
  | captureNameUnclosed => "unclosed capture group name"
  | classEmpty => "empty character classes are not allowed"
  | classEscapeInvalid => "invalid escape sequence found in character class"
  | classRangeInvalid => "invalid character class range, the start must be <= the end"
  | classRangeLiteral => "invalid range boundary, must be a literal"
  | classUnclosed => "unclosed character class"
  | decimalEmpty => "decimal literal empty"
  | decimalInvalid => "decimal literal invalid"
  | escapeHexEmpty => "hexadecimal literal empty"
  | escapeHexInvalid => "hexadecimal literal is not a Unicode scalar value"
  | escapeHexInvalidDigit => "invalid hexadecimal digit"
  | escapeUnclosed => "incomplete escape sequence, reached end of pattern prematurely"
  | escapeUnrecognized => "unrecognized escape sequence"
  | flagDanglingNegation => "dangling flag negation operator"
  | flagDuplicate => "duplicate flag"
  | flagRepeatedNegation => "flag negation operator repeated"
  | flagUnclosed => "expected flag but got end of regex"
  | flagUnrecognized => "unrecognized flag"
  | groupUnclosed => "unclosed group"
  | groupUnopened => "unopened group"
  | invalidUtf8 => "pattern can match invalid UTF-8"
  | lookAround => "look-around, including look-ahead and look-behind, is not supported"
  | nestLimitExceeded =>
    "exceed the maximum number of nested parentheses/brackets (" ++ toString nestLimit ++ ")"
  | propertyInvalid => "invalid Unicode character class"
  | propertyNotFound => "Unicode property not found"
  | propertyValueNotFound => "Unicode property value not found"
  | repetitionCountDecimalEmpty => "repetition quantifier expects a valid decimal"
  | repetitionCountInvalid =>
    "invalid repetition count range, the start must be <= the end"
  | repetitionCountUnclosed => "unclosed counted repetition"
  | repetitionMissing => "repetition operator missing expression"
  | unicodeNotAllowed => "Unicode not allowed here"

/-- Why a text is no pattern, and where. -/
structure Fault where
  kind : Fault.Kind
  span : Span
  /-- The place that the fault is at odds with. -/
  other : Option Span
  deriving DecidableEq, Repr

namespace Fault

/-- The marked spans, in order. -/
def spans (f : Fault) : List Span :=
  match f.other with
  | none => [f.span]
  | some other => if f.span.atMost other then [f.span, other] else [other, f.span]

/-- The line, counted from 1, that a character of a text is in. -/
def lineOf (text : List Char) (offset : Nat) : Nat := (text.take offset).count '\n' + 1

/-- The column, counted from 1, that a character of a text is in. -/
def columnOf (text : List Char) (offset : Nat) : Nat :=
  ((text.take offset).reverse.takeWhile (· != '\n')).length + 1

/-- Marks below a line, at least one for each of some spans, after `position` marks and blanks that
    are there. -/
def marks (text : List Char) (position : Nat) : List Span → List Char
  | [] => []
  | s :: rest =>
    let start := columnOf text s.start
    let gap := (start - 1) - position
    let width := max 1 (columnOf text s.stop - start)
    List.replicate gap ' ' ++ List.replicate width '^' ++ marks text (position + gap + width) rest

/-- A number with blanks before it up to some width. -/
def padded (width n : Nat) : List Char :=
  let digits := Nat.toDigits 10 n
  List.replicate (width - digits.length) ' ' ++ digits

/-- A line of the pattern after its number, if `width` leaves room for one, and the marks of the
    spans that are in it. -/
def notedLine (text : List Char) (width : Nat) (spans : List Span) (number : Nat)
    (line : List Char) : List Char :=
  let here := spans.filter fun s => lineOf text s.start = number
  let indent := if width = 0 then 4 else width + 2
  (if width = 0 then List.replicate 4 ' ' else padded width number ++ [':', ' ']) ++ line ++
    ['\n'] ++
    if here.isEmpty then [] else List.replicate indent ' ' ++ marks text 0 here ++ ['\n']

/-- Some lines of the pattern, of which the first has some number. -/
def notedLines (text : List Char) (width : Nat) (spans : List Span) (number : Nat) :
    List (List Char) → List Char
  | [] => []
  | line :: rest =>
    notedLine text width spans number line ++ notedLines text width spans (number + 1) rest

/-- A span that goes on in another line than it starts in is not marked but described. -/
def describeSpan (text : List Char) (s : Span) : String :=
  "on line " ++ toString (lineOf text s.start) ++ " (column " ++
    toString (columnOf text s.start) ++ ") through line " ++ toString (lineOf text s.stop) ++
    " (column " ++ toString (columnOf text s.stop - 1) ++ ")"

def divider : String := String.ofList (List.replicate 79 '~')

/-- The report of a fault in a pattern. A pattern of several lines is shown between dividers, with
    the numbers of its lines. -/
def report (text : List Char) (f : Fault) : String :=
  let here := f.spans.filter fun s => lineOf text s.start = lineOf text s.stop
  let across := f.spans.filter fun s => lineOf text s.start ≠ lineOf text s.stop
  let all := lines text
  if text.contains '\n' then
    let count := all.length + if text.getLast? = some '\n' then 1 else 0
    let width := if count ≤ 1 then 0 else (Nat.toDigits 10 count).length
    "regex parse error:\n" ++ divider ++ "\n" ++ String.ofList (notedLines text width here 1 all) ++
      divider ++ "\n" ++
      (if across.isEmpty then "" else "\n".intercalate (across.map (describeSpan text)) ++ "\n") ++
      "error: " ++ f.kind.describe
  else
    "regex parse error:\n" ++ String.ofList (notedLines text 0 here 1 all) ++
      "error: " ++ f.kind.describe

end Fault

end Exposition.Pattern
