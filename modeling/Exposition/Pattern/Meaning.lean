import Exposition.Pattern.Expr
import Exposition.Pattern.Reader
import Exposition.Unicode.Folding
import Exposition.Unicode.Property

/-! # The meaning of a tree

Flags in a group hold up to its end, the bars of alternatives included. Without the flag `u` the
elements are about bytes, and an element that would match half of a character is a fault, save a
negated letter class.
-/

namespace Exposition.Pattern

open Cursor (fail)

/-- The flags in force; whether repetitions prefer more or fewer times never decides if a text
    matches. -/
structure Modes where
  caseInsensitive : Bool
  multiLine : Bool
  dotMatchesNewLine : Bool
  unicode : Bool
  deriving DecidableEq, Repr

namespace Modes

def initial : Modes := ⟨false, false, false, true⟩

def apply (m : Modes) (changes : FlagChanges) : Modes where
  caseInsensitive := changes.apply .caseInsensitive m.caseInsensitive
  multiLine := changes.apply .multiLine m.multiLine
  dotMatchesNewLine := changes.apply .dotMatchesNewLine m.dotMatchesNewLine
  unicode := changes.apply .unicode m.unicode

/-- All that an element can be about: characters or bytes. -/
def whole (m : Modes) : CharSet := if m.unicode then .all else .bytes

/-- A class with what differs in case only, if case does not count. -/
def fold (m : Modes) (s : CharSet) : CharSet :=
  if m.caseInsensitive then (if m.unicode then Unicode.foldCase s else Unicode.foldAsciiCase s)
  else s

def negate (m : Modes) (negated : Bool) (s : CharSet) : CharSet :=
  if negated then m.whole.difference s else s

/-- Case first, negation after it. About bytes, a class of more than ASCII is a fault. -/
def close (m : Modes) (span : Span) (negated : Bool) (s : CharSet) : Except Fault CharSet :=
  let s := m.negate negated (m.fold s)
  if !m.unicode && !(s.difference (.range 0 0x7F)).isEmpty then fail .invalidUtf8 span else .ok s

end Modes

def ofCharRanges (ranges : List (Char × Char)) : CharSet :=
  ⟨ranges.map fun (low, high) => (low.toNat, high.toNat)⟩

def NamedClass.set : NamedClass → CharSet
  | alnum => ofCharRanges [('0', '9'), ('A', 'Z'), ('a', 'z')]
  | alpha => ofCharRanges [('A', 'Z'), ('a', 'z')]
  | ascii => .range 0 0x7F
  | blank => ofCharRanges [('\t', '\t'), (' ', ' ')]
  | cntrl => ofCharRanges [('\x00', '\x1f'), ('\x7f', '\x7f')]
  | digit => ofCharRanges [('0', '9')]
  | graph => ofCharRanges [('!', '~')]
  | lower => ofCharRanges [('a', 'z')]
  | print => ofCharRanges [(' ', '~')]
  | punct => ofCharRanges [('!', '/'), (':', '@'), ('[', '\x60'), ('\x7b', '~')]
  | space => ofCharRanges [('\t', '\r'), (' ', ' ')]
  | upper => ofCharRanges [('A', 'Z')]
  | word => ofCharRanges [('0', '9'), ('A', 'Z'), ('_', '_'), ('a', 'z')]
  | xdigit => ofCharRanges [('0', '9'), ('A', 'F'), ('a', 'f')]

def wordSet (m : Modes) : CharSet :=
  if m.unicode then Unicode.wordCharacters else NamedClass.word.set

def LetterClass.set (m : Modes) : LetterClass → CharSet
  | digit => if m.unicode then Unicode.digits else NamedClass.digit.set
  | space => if m.unicode then Unicode.spaces else NamedClass.space.set
  | word => wordSet m

def letterSet (m : Modes) (negated : Bool) (letter : LetterClass) : CharSet :=
  m.negate negated (letter.set m)

/-- The characters that a property query asks for. -/
def propertySet (m : Modes) (span : Span) (negated : Bool) (query : PropertyQuery) :
    Except Fault CharSet :=
  if !m.unicode then fail .unicodeNotAllowed span
  else
    let found := match query with
      | .named name => Unicode.named name
      | .valued name value => Unicode.valued name value
    match found with
    | .ok s => .ok (m.negate negated (m.fold s))
    | .error .property => fail .propertyNotFound span
    | .error .value => fail .propertyValueNotFound span

/-- The code of a literal in a class. About bytes, two hexadecimal digits name a byte, and no other
    literal can be beyond ASCII. -/
def classCode (m : Modes) (span : Span) (l : Literal) : Except Fault Nat :=
  if m.unicode || l.char.toNat < 0x80 then .ok l.char.toNat
  else if l.twoDigits then fail .invalidUtf8 span
  else fail .unicodeNotAllowed span

def ClassOperator.apply : ClassOperator → CharSet → CharSet → CharSet
  | intersection => CharSet.intersection
  | difference => CharSet.difference
  | symmetricDifference => CharSet.symmetricDifference

mutual

/-- What a class tree adds to the characters that stand before it in the same brackets. A named
    class that is negated is negated together with them. -/
def ClassTree.addTo (m : Modes) (before : CharSet) : ClassTree → Except Fault CharSet
  | .empty _ => .ok before
  | .literal span l => do
    let code ← classCode m span l
    return before.union (.range code code)
  | .range _ (span, low) (span', high) => do
    let low ← classCode m span low
    let high ← classCode m span' high
    return before.union (.range low high)
  | .named span negated name => m.close span negated (before.union name.set)
  | .letter _ negated name => .ok (before.union (letterSet m negated name))
  | .property span negated query => do
    return before.union (← propertySet m span negated query)
  | .bracketed span negated content => do
    return before.union (← m.close span negated (← content.addTo m .empty))
  | .union _ items => addAll m before items
  | .combined _ operator left right => do
    let left ← left.addTo m .empty
    let right ← right.addTo m .empty
    return before.union (operator.apply (m.fold left) (m.fold right))

def ClassTree.addAll (m : Modes) (before : CharSet) : List ClassTree → Except Fault CharSet
  | [] => .ok before
  | item :: rest => do
    addAll m (← item.addTo m before) rest

end

/-- A literal outside of classes. -/
def literalExpr (m : Modes) (span : Span) (l : Literal) : Except Fault Expr := do
  let code ← classCode m span l
  return .char (m.fold (.range code code))

/-- Any character, the line feed excepted unless it is wanted. About bytes that would be half
    characters, too. -/
def dotExpr (m : Modes) (span : Span) : Except Fault Expr :=
  if !m.unicode then fail .invalidUtf8 span
  else if m.dotMatchesNewLine then .ok (.char .all)
  else .ok (.char (CharSet.all.difference (.range 0xA 0xA)))

/-- A negated boundary of ASCII words lies also inside of characters, and is a fault. -/
def assertionExpr (m : Modes) (span : Span) : Assertion → Except Fault Expr
  | .startLine => .ok (.look (if m.multiLine then .startLine else .startText))
  | .endLine => .ok (.look (if m.multiLine then .endLine else .endText))
  | .startText => .ok (.look .startText)
  | .endText => .ok (.look .endText)
  | .wordBoundary => .ok (.look (.wordBoundary (wordSet m)))
  | .notWordBoundary =>
    if m.unicode then .ok (.look (.notWordBoundary (wordSet m))) else fail .invalidUtf8 span

mutual

/-- The expression of a tree in some modes, and the modes after it. -/
def Tree.toExpr (m : Modes) : Tree → Except Fault (Expr × Modes)
  | .empty _ => .ok (.empty, m)
  | .flags _ changes => .ok (.empty, m.apply changes)
  | .literal span l => do return (← literalExpr m span l, m)
  | .dot span => do return (← dotExpr m span, m)
  | .assertion span a => do return (← assertionExpr m span a, m)
  | .letter _ negated name =>
    let s := letterSet m negated name
    .ok (if negated && !m.unicode then .byte s else .char s, m)
  | .property span negated query => do return (.char (← propertySet m span negated query), m)
  | .bracketed span negated content => do
    let s ← m.close span negated (← content.addTo m .empty)
    if s.isEmpty then fail .classEmpty span else return (.char s, m)
  | .repetition _ times content => do
    let (e, m) ← content.toExpr m
    return (.repeated times e, m)
  | .group _ captures changes content => do
    let (e, _) ← content.toExpr (m.apply changes)
    return (.group captures e, m)
  | .sequence _ items => do
    let (es, m) ← toExprs m items
    -- a change of flags is no part of the sequence
    return (.all (es.filter (!·.isEmpty)), m)
  | .alternatives _ items => do
    let (es, m) ← toExprs m items
    return (.any es, m)

def Tree.toExprs (m : Modes) : List Tree → Except Fault (List Expr × Modes)
  | [] => .ok ([], m)
  | tree :: rest => do
    let (e, m) ← tree.toExpr m
    let (es, m) ← toExprs m rest
    return (e :: es, m)

end

end Exposition.Pattern
