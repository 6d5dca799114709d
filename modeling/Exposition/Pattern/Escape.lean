import Exposition.Pattern.Cursor

/-! # Escapes and other single elements

What a pattern writes with a backslash, and the elements that are one character: literals, the dot
and assertions. Outside and inside classes they are read alike.
-/

namespace Exposition.Pattern

/-- One element of a pattern or of a class. -/
inductive Element where
  | literal (literal : Literal)
  | dot
  | assertion (assertion : Assertion)
  | letter (negated : Bool) (letter : LetterClass)
  | property (negated : Bool) (query : PropertyQuery)
  deriving Repr

def Element.toTree (span : Span) : Element → Tree
  | literal l => .literal span l
  | dot => .dot span
  | assertion a => .assertion span a
  | letter negated l => .letter span negated l
  | property negated q => .property span negated q

open Cursor

/-- Characters that have a meaning somewhere and stand for themselves after a backslash. -/
def isMeta (c : Char) : Bool := "\\.+*?()|[]\x7b\x7d^$#&-~".contains c

def hexValue? (c : Char) : Option Nat :=
  if '0' ≤ c && c ≤ '9' then some (c.toNat - '0'.toNat)
  else if 'a' ≤ c && c ≤ 'f' then some (c.toNat - 'a'.toNat + 10)
  else if 'A' ≤ c && c ≤ 'F' then some (c.toNat - 'A'.toNat + 10)
  else none

/-- The character of a code point; there is none for surrogates and beyond the last one. -/
def char? (n : Nat) : Option Char := if h : n.isValidChar then some (.ofNatAux n h) else none

/-- The hexadecimal digits up to a closing brace, as a number and how many there are. The cursor
    stands before the character that the first of them follows. -/
def bracedHex (brace : Nat) : (fuel value count : Nat) → Cursor → Except Fault (Nat × Nat × Cursor)
  | 0, _, _, c => fail .escapeUnclosed (c.since brace)
  | fuel + 1, value, count, c =>
    let c := c.nextSkipping
    match c.head? with
    | none => fail .escapeUnclosed (c.since brace)
    | some '\x7d' => .ok (value, count, c)
    | some digit =>
      match hexValue? digit with
      | none => fail .escapeHexInvalidDigit c.here
      | some d => bracedHex brace fuel (16 * value + d) (count + 1) c

/-- A code point in braces, where the cursor is. -/
def bracedCode (c : Cursor) : Except Fault (Char × Cursor) := do
  let brace := c.offset
  let (value, count, closing) ← bracedHex brace c.rest.length 0 0 c
  let after := closing.nextSkipping
  if count = 0 then fail .escapeHexEmpty (after.since brace)
  else
    match char? value with
    | none => fail .escapeHexInvalid (closing.since (brace + 1))
    | some char => .ok (char, after)

/-- A set number of hexadecimal digits, of which the cursor is before the next one. -/
def fixedHex : (count value : Nat) → Cursor → Except Fault (Nat × Cursor)
  | 0, value, c => .ok (value, c)
  | count + 1, value, c =>
    match c.head? with
    | none => fail .escapeUnclosed c.empty
    | some digit =>
      match hexValue? digit with
      | none => fail .escapeHexInvalidDigit c.here
      | some d => fixedHex count (16 * value + d) c.nextSkipping

/-- A code point of a set number of digits. -/
def fixedCode (count : Nat) (c : Cursor) : Except Fault (Char × Cursor) := do
  let (value, after) ← fixedHex count 0 c
  match char? value with
  | none => fail .escapeHexInvalid (after.since c.offset)
  | some char => .ok (char, after)

/-- The code point after `x`, `u` or `U`, where the cursor is. -/
def codeEscape (count : Nat) (c : Cursor) : Except Fault (Element × Cursor) := do
  let c := c.nextSkipping
  match c.head? with
  | none => fail .escapeUnclosed c.empty
  | some '\x7b' =>
    let (char, c) ← bracedCode c
    .ok (.literal ⟨char, false⟩, c)
  | some _ =>
    let (char, c) ← fixedCode count c
    .ok (.literal ⟨char, count = 2⟩, c)

/-- The name of a property up to a closing brace. The cursor stands before the character that the
    name follows. -/
def propertyName : (fuel : Nat) → Cursor → Except Fault (List Char × Cursor)
  | 0, c => fail .escapeUnclosed c.empty
  | fuel + 1, c => do
    let c := c.nextSkipping
    match c.head? with
    | none => fail .escapeUnclosed c.empty
    | some '\x7d' => .ok ([], c.next)
    | some char =>
      let (name, c) ← propertyName fuel c
      .ok (char :: name, c)

/-- What is before and after the first occurrence of a word. -/
def splitAt? (word : List Char) : List Char → Option (List Char × List Char)
  | [] => none
  | c :: rest =>
    if word.isPrefixOf (c :: rest) then some ([], (c :: rest).drop word.length)
    else (splitAt? word rest).map fun (before, after) => (c :: before, after)

/-- The query that the text in braces makes: a name alone, or a name and a value. -/
def queryOfText (text : List Char) : PropertyQuery :=
  match (splitAt? ['!', '='] text).or ((splitAt? [':'] text).or (splitAt? ['='] text)) with
  | some (name, value) => .valued (String.ofList name) (String.ofList value)
  | none => .named (String.ofList text)

/-- The property after `p` or `P`, where the cursor is. -/
def propertyEscape (negated : Bool) (c : Cursor) : Except Fault (Element × Cursor) := do
  let c := c.nextSkipping
  match c.head? with
  | none => fail .escapeUnclosed c.empty
  | some '\x7b' =>
    let (name, c) ← propertyName c.rest.length c
    .ok (.property negated (queryOfText name), c)
  | some '\\' => fail .propertyInvalid c.here
  | some letter => .ok (.property negated (.named letter.toString), c.nextSkipping)

/-- An escape of one character, which the cursor is past. -/
def letterEscape? (ignoresSpace : Bool) (char : Char) : Option Element :=
  if isMeta char then some (.literal ⟨char, false⟩)
  else match char with
    | 'a' => some (.literal ⟨'\x07', false⟩)
    | 'f' => some (.literal ⟨'\x0c', false⟩)
    | 't' => some (.literal ⟨'\t', false⟩)
    | 'n' => some (.literal ⟨'\n', false⟩)
    | 'r' => some (.literal ⟨'\r', false⟩)
    | 'v' => some (.literal ⟨'\x0b', false⟩)
    | ' ' => if ignoresSpace then some (.literal ⟨' ', false⟩) else none
    | 'A' => some (.assertion .startText)
    | 'z' => some (.assertion .endText)
    | 'b' => some (.assertion .wordBoundary)
    | 'B' => some (.assertion .notWordBoundary)
    | 'd' => some (.letter false .digit)
    | 's' => some (.letter false .space)
    | 'w' => some (.letter false .word)
    | 'D' => some (.letter true .digit)
    | 'S' => some (.letter true .space)
    | 'W' => some (.letter true .word)
    | _ => none

/-- The escape whose backslash is at the cursor, and its span. -/
def escape (c : Cursor) : Except Fault ((Span × Element) × Cursor) := do
  let start := c.offset
  let c := c.next
  match c.head? with
  | none => fail .escapeUnclosed (c.since start)
  | some char =>
    let (element, c) ←
      if '0' ≤ char && char ≤ '9' then fail .backreference (c.next.since start)
      else if char = 'x' then codeEscape 2 c
      else if char = 'u' then codeEscape 4 c
      else if char = 'U' then codeEscape 8 c
      else if char = 'p' then propertyEscape false c
      else if char = 'P' then propertyEscape true c
      else match letterEscape? c.ignoresSpace char with
        | some element => .ok (element, c.next)
        | none => fail .escapeUnrecognized (c.next.since start)
    .ok ((c.since start, element), c)

/-- The element at the cursor, which begins with some character. -/
def element (char : Char) (c : Cursor) : Except Fault ((Span × Element) × Cursor) :=
  let single (e : Element) := .ok ((c.here, e), c.next)
  match char with
  | '\\' => escape c
  | '.' => single .dot
  | '^' => single (.assertion .startLine)
  | '$' => single (.assertion .endLine)
  | char => single (.literal ⟨char, false⟩)

end Exposition.Pattern
