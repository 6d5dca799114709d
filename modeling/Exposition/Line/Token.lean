import Exposition.Line.Basic
import Exposition.Number.Rounding
import Exposition.Text.Spacing

/-! # Tokens of a line

Names, blanks, values and timestamps. Every reader here takes the longest token at the front of
the characters, or finds none; all are ASCII.
-/

namespace Exposition

def isAlpha (c : Char) : Bool := ('a' ≤ c && c ≤ 'z') || ('A' ≤ c && c ≤ 'Z')

def isDigit (c : Char) : Bool := '0' ≤ c && c ≤ '9'

/-- The characters that a label name may start with. -/
def isLabelStart (c : Char) : Bool := isAlpha c || c == '_'

/-- The characters that a metric name may start with. -/
def isMetricStart (c : Char) : Bool := isLabelStart c || c == ':'

/-- A name that starts with a character of one class and goes on with those and digits. -/
def name? (isStart : Char → Bool) : List Char → Option (String × List Char)
  | [] => none
  | c :: rest =>
    let goesOn := fun c => isStart c || isDigit c
    if isStart c then some (String.ofList (c :: rest.takeWhile goesOn), rest.dropWhile goesOn)
    else none

def metricName? : List Char → Option (String × List Char) := name? isMetricStart

def labelName? : List Char → Option (String × List Char) := name? isLabelStart

/-- One or more letters. -/
def word? (cs : List Char) : Option (String × List Char) :=
  match cs.takeWhile isAlpha with
  | [] => none
  | word => some (String.ofList word, cs.dropWhile isAlpha)

/-- One or more blanks; what they are does not matter. -/
def blanks? : List Char → Option (Unit × List Char)
  | [] => none
  | c :: rest => if isBlank c then some ((), skipBlanks rest) else none

/-- The natural number that digits denote, after the digits of `n`. -/
def ofDigits (n : Nat) (digits : List Char) : Nat :=
  digits.foldl (fun n c => 10 * n + (c.toNat - '0'.toNat)) n

/-- An optional sign: is it a minus? -/
def sign : List Char → Bool × List Char
  | '-' :: rest => (true, rest)
  | '+' :: rest => (false, rest)
  | cs => (false, cs)

/-- One or more digits. -/
def digits? (cs : List Char) : Option (List Char × List Char) :=
  match cs.takeWhile isDigit with
  | [] => none
  | digits => some (digits, cs.dropWhile isDigit)

/-- A sign and digits. -/
def integer? (cs : List Char) : Option (Int × List Char) :=
  let (negative, rest) := sign cs
  (digits? rest).map fun (digits, rest) =>
    let n : Int := ofDigits 0 digits
    (if negative then -n else n, rest)

/-- The letters of `word` in either case, or nothing. -/
def caseless? : List Char → List Char → Option (List Char)
  | [], cs => some cs
  | _ :: _, [] => none
  | w :: word, c :: cs => if c.toLower = w then caseless? word cs else none

/-- Infinity or not-a-number, by its first three letters. -/
def special? (cs : List Char) : Option (Binary64 × List Char) :=
  let (negative, rest) := sign cs
  match caseless? ['i', 'n', 'f'] rest with
  | some rest => some (.infinity negative, rest)
  | none => (caseless? ['n', 'a', 'n'] rest).map fun rest => (.nan, rest)

/-- The digits before and after an optional point, of which there has to be one. -/
def mantissa? (cs : List Char) : Option ((List Char × List Char) × List Char) :=
  let whole := cs.takeWhile isDigit
  match cs.dropWhile isDigit with
  | '.' :: rest =>
    let fraction := rest.takeWhile isDigit
    if whole.isEmpty && fraction.isEmpty then none
    else some ((whole, fraction), rest.dropWhile isDigit)
  | rest => if whole.isEmpty then none else some ((whole, []), rest)

/-- The power of ten after the mantissa. Without the letter `e` it is zero; after it there has to
    be a number. -/
def exponent? : List Char → Option (Int × List Char)
  | [] => some (0, [])
  | c :: rest => if c = 'e' || c = 'E' then integer? rest else some (0, c :: rest)

/-- A decimal numeral. -/
def decimal? (cs : List Char) : Option (Decimal × List Char) := do
  let (negative, rest) := sign cs
  let ((whole, fraction), rest) ← mantissa? rest
  let (exponent, rest) ← exponent? rest
  return (⟨negative, ofDigits (ofDigits 0 whole) fraction, exponent - fraction.length⟩, rest)

/-- The value of a sample. -/
def value? (cs : List Char) : Option (Binary64 × List Char) :=
  match special? cs with
  | some result => some result
  | none => (decimal? cs).map fun (numeral, rest) => (numeral.toBinary64, rest)

/-- The time of a sample. There is none where no integer stands; an integer that 64 bits cannot
    hold is refused at its first character. -/
def timestamp? (cs : List Char) : Except Rejection (Option (Int64 × List Char)) :=
  match integer? cs with
  | none => .ok none
  | some (n, rest) =>
    if Int64.minValue.toInt ≤ n && n ≤ Int64.maxValue.toInt then .ok (some (Int64.ofInt n, rest))
    else .error ⟨.timestampInRange, cs⟩

end Exposition
