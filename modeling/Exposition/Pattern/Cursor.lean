import Exposition.Pattern.Tree
import Exposition.Text.Spacing

/-! # Reading position in a pattern

A cursor stands before the rest of a pattern. Where white space is ignored, moving on can skip it
together with comments, which run from `#` to the end of the line.
-/

namespace Exposition.Pattern

structure Cursor where
  /-- The length of the whole pattern. -/
  total : Nat
  rest : List Char
  ignoresSpace : Bool
  /-- The capture names so far, the last one first. -/
  captureNames : List (List Char × Span)

namespace Cursor

def ofPattern (text : List Char) : Cursor := ⟨text.length, text, false, []⟩

/-- The number of characters before the cursor. -/
def offset (c : Cursor) : Nat := c.total - c.rest.length

def isAtEnd (c : Cursor) : Bool := c.rest.isEmpty

/-- The character after the cursor. -/
def head? (c : Cursor) : Option Char := c.rest.head?

/-- The characters without the white space and the comments in front of them. -/
def dropIgnored (inComment : Bool) : List Char → List Char
  | [] => []
  | c :: rest =>
    if inComment then dropIgnored (c != '\n') rest
    else if isSpace c then dropIgnored false rest
    else if c = '#' then dropIgnored true rest
    else c :: rest

/-- Past what is ignored here. -/
def skipIgnored (c : Cursor) : Cursor :=
  if c.ignoresSpace then { c with rest := dropIgnored false c.rest } else c

/-- Past one character. -/
def next (c : Cursor) : Cursor := { c with rest := c.rest.drop 1 }

/-- Past one character and what is ignored after it. -/
def nextSkipping (c : Cursor) : Cursor := c.next.skipIgnored

/-- Past given characters, if they stand here. -/
def past? (word : List Char) (c : Cursor) : Option Cursor :=
  if word.isPrefixOf c.rest then some { c with rest := c.rest.drop word.length } else none

/-- The character after the next one. -/
def peek? (c : Cursor) : Option Char := c.next.head?

/-- The first character that is neither white space nor the first `#`. -/
def firstVisible? (afterHash : Bool) : List Char → Option Char
  | [] => none
  | c :: rest =>
    if isSpace c then firstVisible? afterHash rest
    else if !afterHash && c = '#' then firstVisible? true rest
    else some c

/-- The next character that counts after the one at the cursor. -/
def peekSkipping? (c : Cursor) : Option Char :=
  if c.ignoresSpace then
    if c.isAtEnd then none else (firstVisible? false c.next.rest).or c.peek?
  else c.peek?

/-- The span from some place to the cursor. -/
def since (start : Nat) (c : Cursor) : Span := ⟨start, c.offset⟩

/-- The span of the character after the cursor. -/
def here (c : Cursor) : Span := ⟨c.offset, c.offset + 1⟩

/-- The empty span at the cursor. -/
def empty (c : Cursor) : Span := ⟨c.offset, c.offset⟩

def fail {α : Type} (kind : Fault.Kind) (span : Span) : Except Fault α := .error ⟨kind, span, none⟩

def failAgainst {α : Type} (kind : Fault.Kind) (span other : Span) : Except Fault α :=
  .error ⟨kind, span, some other⟩

end Cursor

end Exposition.Pattern
