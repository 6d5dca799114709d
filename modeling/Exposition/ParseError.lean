import Exposition.Line.Basic
import Exposition.Text.Spacing

/-! # Parse errors

A text is refused at its first rejected line. The error keeps that line and the place in it, and
its message quotes what stands there.
-/

namespace Exposition

structure ParseError where
  /-- Counted from 1. -/
  line : Nat
  /-- Counted in characters from 1. -/
  column : Nat
  text : String
  expected : Expectation
  deriving DecidableEq, Repr

namespace ParseError

/-- The error of a rejected line, the `number`th of its text. -/
def ofRejection (number : Nat) (line : List Char) (r : Rejection) : ParseError :=
  ⟨number, r.column line, String.ofList line, r.expected⟩

/-- What stands at the place of the error, up to the next white space. -/
def found (e : ParseError) : List Char := firstWord (e.text.toList.drop (e.column - 1))

/-- What was found, in quotes unless it is nothing. -/
def describeFound (e : ParseError) : String :=
  match e.found with
  | [] => "end of line"
  | word => "\"" ++ String.ofList word ++ "\""

def describe (e : ParseError) : String :=
  toString e.line ++ ":" ++ toString e.column ++ " unexpected " ++ e.describeFound ++
    ", expected " ++ e.expected.describe ++ " in line \"" ++ e.text ++ "\""

end ParseError

end Exposition
