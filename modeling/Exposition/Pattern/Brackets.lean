import Exposition.Pattern.Escape

/-! # Reading bracketed classes

Between brackets stand characters, ranges, escapes, named classes and further brackets. Two of `&`,
`-` or `~` combine what is before them with what is after them, from left to right.
-/

namespace Exposition.Pattern

open Cursor

def NamedClass.ofName? : String → Option NamedClass
  | "alnum" => some alnum
  | "alpha" => some alpha
  | "ascii" => some ascii
  | "blank" => some blank
  | "cntrl" => some cntrl
  | "digit" => some digit
  | "graph" => some graph
  | "lower" => some lower
  | "print" => some print
  | "punct" => some punct
  | "space" => some space
  | "upper" => some upper
  | "word" => some word
  | "xdigit" => some xdigit
  | _ => none

/-- A named class such as `[:alpha:]` or `[:^alpha:]`, if one stands here. -/
def namedClass? (c : Cursor) : Option (ClassTree × Cursor) := do
  let start ← c.past? ['[', ':']
  let (negated, start) := match start.past? ['^'] with
    | some start => (true, start)
    | none => (false, start)
  let name := start.rest.takeWhile (· != ':')
  let stop ← { start with rest := start.rest.drop name.length }.past? [':', ']']
  let found ← NamedClass.ofName? (String.ofList name)
  return (.named (stop.since c.offset) negated found, stop)

/-- What has been read at one level of brackets. -/
structure Level where
  /-- The span of the opening bracket and what belongs to it, which is reported if it is never
      closed. -/
  opening : Span
  negated : Bool
  /-- What an operator will be applied to, and the operator. -/
  pending : Option (ClassOperator × ClassTree)
  /-- Where the items after that start. -/
  start : Nat
  /-- The last item first. -/
  itemsReversed : List ClassTree

namespace Level

def push (l : Level) (item : ClassTree) : Level :=
  { l with itemsReversed := item :: l.itemsReversed }

/-- The items as one tree. -/
def items (l : Level) : ClassTree :=
  match l.itemsReversed with
  | [] => .empty ⟨l.start, l.start⟩
  | [item] => item
  | last :: others =>
    let first := others.getLast?.getD last
    .union ⟨first.span.start, last.span.stop⟩ l.itemsReversed.reverse

/-- The items, combined with what is pending. -/
def content (l : Level) : ClassTree :=
  match l.pending with
  | none => l.items
  | some (operator, left) => .combined ⟨left.span.start, l.items.span.stop⟩ operator left l.items

/-- After an operator, which ends at some place. -/
def operate (l : Level) (operator : ClassOperator) (start : Nat) : Level :=
  { l with pending := some (operator, l.content), start := start, itemsReversed := [] }

end Level

/-- An element as an item of a class; assertions and the like are none. -/
def Element.toClass (span : Span) : Element → Except Fault ClassTree
  | literal l => .ok (.literal span l)
  | letter negated l => .ok (.letter span negated l)
  | property negated q => .ok (.property span negated q)
  | _ => fail .classEscapeInvalid span

/-- An element as an end of a range, which has to be a literal. -/
def Element.toBound (span : Span) : Element → Except Fault Literal
  | literal l => .ok l
  | _ => fail .classRangeLiteral span

/-- A character of a class or an escape. -/
def classElement (char : Char) (c : Cursor) : Except Fault ((Span × Element) × Cursor) :=
  if char = '\\' then escape c else .ok ((c.here, .literal ⟨char, false⟩), c.next)

/-- An element or a range of them. A minus makes a range unless a closing bracket or another minus
    follows. -/
def classItem (l : Level) (char : Char) (c : Cursor) : Except Fault (ClassTree × Cursor) := do
  let ((span, low), c) ← classElement char c
  let c := c.skipIgnored
  if c.isAtEnd then fail .classUnclosed l.opening
  else if c.head? ≠ some '-' || c.peekSkipping? = some ']' || c.peekSkipping? = some '-' then
    return (← low.toClass span, c)
  else
    let c := c.nextSkipping
    match c.head? with
    | none => fail .classUnclosed l.opening
    | some char =>
      let ((span', high), c) ← classElement char c
      let whole : Span := ⟨span.start, span'.stop⟩
      let low ← low.toBound span
      let high ← high.toBound span'
      if high.char < low.char then fail .classRangeInvalid whole
      else return (.range whole (span, low) (span', high), c)

/-- Minus signs right after the opening stand for themselves. -/
def leadingMinuses (start : Nat) : (fuel : Nat) → Level → Cursor → Except Fault (Level × Cursor)
  | 0, l, c => .ok (l, c)
  | fuel + 1, l, c =>
    if c.head? = some '-' then
      let item := .literal c.here ⟨'-', false⟩
      let c := c.nextSkipping
      if c.isAtEnd then fail .classUnclosed (c.since start)
      else leadingMinuses start fuel (l.push item) c
    else .ok (l, c)

/-- The opening bracket at the cursor, a negation, and the characters that stand for themselves
    only there: minus signs, or one closing bracket. -/
def openBracket (c : Cursor) : Except Fault (Level × Cursor) := do
  let start := c.offset
  let c := c.nextSkipping
  let negated := c.head? = some '^'
  let c := if negated then c.nextSkipping else c
  if c.isAtEnd then fail .classUnclosed (c.since start)
  else
    let (l, c) ← leadingMinuses start c.rest.length ⟨c.empty, negated, none, c.offset, []⟩ c
    if l.itemsReversed.isEmpty && c.head? = some ']' then
      let l := l.push (.literal c.here ⟨']', false⟩)
      let c := c.nextSkipping
      if c.isAtEnd then fail .classUnclosed (c.since start)
      else return ({ l with opening := c.since start }, c)
    else return ({ l with opening := c.since start }, c)

/-- The operator that two equal characters at the cursor make. -/
def classOperator? (c : Cursor) : Option (ClassOperator × Cursor) :=
  match c.past? ['&', '&'], c.past? ['-', '-'], c.past? ['~', '~'] with
  | some c, _, _ => some (.intersection, c)
  | _, some c, _ => some (.difference, c)
  | _, _, some c => some (.symmetricDifference, c)
  | _, _, _ => none

mutual

/-- The class whose opening bracket is at the cursor: its span, whether it is negated, and what is
    in it. -/
def brackets : (fuel : Nat) → Cursor → Except Fault ((Span × Bool × ClassTree) × Cursor)
  | 0, c => fail .classUnclosed c.empty
  | fuel + 1, c => do
    let start := c.offset
    let (l, c) ← openBracket c
    let (l, c) ← bracketItems fuel l c
    return ((c.since start, l.negated, l.content), c)

/-- The rest of a class from some level on, its closing bracket included. -/
def bracketItems : (fuel : Nat) → Level → Cursor → Except Fault (Level × Cursor)
  | 0, l, _ => fail .classUnclosed l.opening
  | fuel + 1, l, c => do
    let c := c.skipIgnored
    match c.head? with
    | none => fail .classUnclosed l.opening
    | some ']' => return (l, c.next)
    | some '[' =>
      match namedClass? c with
      | some (item, c) => bracketItems fuel (l.push item) c
      | none =>
        let ((span, negated, content), c) ← brackets fuel c
        bracketItems fuel (l.push (.bracketed span negated content)) c
    | some char =>
      match classOperator? c with
      | some (operator, c) => bracketItems fuel (l.operate operator c.offset) c
      | none =>
        let (item, c) ← classItem l char c
        bracketItems fuel (l.push item) c

end

end Exposition.Pattern
