import Exposition.Pattern.Brackets

/-! # Reading patterns

A pattern is read from left to right into a tree. The first fault ends it.
-/

namespace Exposition.Pattern

open Cursor

/-- The flag that a letter stands for. -/
def Flag.ofLetter? : Char → Option Flag
  | 'i' => some caseInsensitive
  | 'm' => some multiLine
  | 's' => some dotMatchesNewLine
  | 'U' => some swapGreed
  | 'u' => some unicode
  | 'x' => some ignoreWhitespace
  | _ => none

/-- A flag or, if there is none, a minus that turns off the flags after it. -/
abbrev FlagItem := Option Flag × Span

/-- The flags up to a colon or a closing parenthesis, the last one first. -/
def flagItems : (fuel : Nat) → List FlagItem → Cursor → Except Fault (List FlagItem × Cursor)
  | 0, _, c => fail .flagUnclosed c.empty
  | fuel + 1, items, c => do
    match c.head? with
    | none => fail .flagUnclosed c.empty
    | some ':' | some ')' =>
      match items with
      | (none, span) :: _ => fail .flagDanglingNegation span
      | _ => return (items, c)
    | some letter =>
      let flag ←
        if letter = '-' then pure none
        else match Flag.ofLetter? letter with
          | some flag => pure (some flag)
          | none => fail .flagUnrecognized c.here
      match items.find? (·.1 = flag) with
      | some (_, span) =>
        failAgainst (if flag.isNone then .flagRepeatedNegation else .flagDuplicate) c.here span
      | none => flagItems fuel ((flag, c.here) :: items) c.next

/-- What some flags do; those after a minus are turned off. -/
def flagChanges (on : Bool) : List FlagItem → FlagChanges
  | [] => []
  | (none, _) :: rest => flagChanges false rest
  | (some flag, _) :: rest => (flag, on) :: flagChanges on rest

/-- What changes do to a flag that was set in some way. -/
def FlagChanges.apply (changes : FlagChanges) (flag : Flag) (before : Bool) : Bool :=
  ((changes.find? (·.1 = flag)).map (·.2)).getD before

/-- The characters of a capture name; digits, points and brackets cannot come first. -/
def isCaptureChar (first : Bool) (c : Char) : Bool :=
  c == '_' || ('A' ≤ c && c ≤ 'Z') || ('a' ≤ c && c ≤ 'z') ||
    (!first && (('0' ≤ c && c ≤ '9') || c == '.' || c == '[' || c == ']'))

/-- The characters of a capture name up to the closing angle bracket. -/
def captureNameChars : (fuel : Nat) → (first : Bool) → Cursor → Except Fault (List Char × Cursor)
  | 0, _, c => fail .captureNameUnclosed c.empty
  | fuel + 1, first, c => do
    match c.head? with
    | none => fail .captureNameUnclosed c.empty
    | some '>' => return ([], c)
    | some char =>
      if isCaptureChar first char then
        let (name, c) ← captureNameChars fuel false c.next
        return (char :: name, c)
      else fail .captureNameInvalid c.here

/-- A capture name, which no other capture has. -/
def captureName (c : Cursor) : Except Fault Cursor := do
  let start := c.offset
  let (name, closing) ← captureNameChars (c.rest.length + 1) true c
  let span := closing.since start
  if name.isEmpty then fail .captureNameEmpty span
  else
    match closing.captureNames.find? (·.1 = name) with
    | some (_, other) => failAgainst .captureNameDuplicate span other
    | none => return { closing.next with captureNames := (name, span) :: closing.captureNames }

/-- What an opening parenthesis begins: a group, or a change of flags that is complete. -/
inductive Opening where
  | group (captures : Bool) (changes : FlagChanges)
  | flags (changes : FlagChanges)

/-- The opening parenthesis at the cursor and what belongs to it. -/
def opening (c : Cursor) : Except Fault (Opening × Cursor) := do
  let paren := c.here
  let inner := c.nextSkipping
  let lookAround :=
    [['?', '='], ['?', '!'], ['?', '<', '='], ['?', '<', '!']].findSome? fun word =>
      inner.past? word
  match lookAround, inner.past? ['?', 'P', '<'], inner.past? ['?'] with
  | some c, _, _ => fail .lookAround (c.since paren.start)
  | none, some c, _ => return (.group true [], ← captureName c)
  | none, none, none => return (.group true [], inner)
  | none, none, some c =>
    if c.isAtEnd then fail .groupUnclosed paren
    else
      let (items, c) ← flagItems (c.rest.length + 1) [] c
      let changes := flagChanges true items.reverse
      if c.head? = some ')' then
        if items.isEmpty then fail .repetitionMissing inner.empty
        else return (.flags changes, c.next)
      else return (.group false changes, c.next)

/-- The digits at the cursor, white space around them and what is ignored between them aside. -/
def countDigits : (fuel : Nat) → List Char → Cursor → List Char × Cursor
  | 0, digits, c => (digits, c)
  | fuel + 1, digits, c =>
    match c.head? with
    | some d =>
      if '0' ≤ d && d ≤ '9' then countDigits fuel (d :: digits) c.nextSkipping else (digits, c)
    | none => (digits, c)

/-- Past any white space, and past what is ignored after each of it if `skipping`. -/
def pastSpace (skipping : Bool) : (fuel : Nat) → Cursor → Cursor
  | 0, c => c
  | fuel + 1, c =>
    if c.head?.any isSpace then
      pastSpace skipping fuel (if skipping then c.nextSkipping else c.next)
    else c

/-- The largest count of a repetition. -/
def countLimit : Nat := UInt32.size - 1

def countValue (digitsReversed : List Char) : Nat :=
  digitsReversed.foldr (fun d n => 10 * n + (d.toNat - '0'.toNat)) 0

/-- A count of a repetition. -/
def count (c : Cursor) : Except Fault (Nat × Cursor) := do
  let c := pastSpace false c.rest.length c
  let start := c.offset
  let (digits, c) := countDigits c.rest.length [] c
  let span := c.since start
  let c := pastSpace true c.rest.length c
  if digits.isEmpty then fail .repetitionCountDecimalEmpty span
  else
    let n := countValue digits
    if countLimit < n then fail .decimalInvalid span else return (n, c)

/-- Past the question mark that makes a repetition prefer fewer times. -/
def pastLazy (c : Cursor) : Cursor := (c.past? ['?']).getD c

/-- A repetition between braces, the first of which is at the cursor. -/
def countedRepetition (content : Tree) (c : Cursor) : Except Fault (Tree × Cursor) := do
  let start := c.offset
  let unclosed {α : Type} (c : Cursor) : Except Fault α :=
    fail .repetitionCountUnclosed (c.since start)
  let c := c.nextSkipping
  if c.isAtEnd then unclosed c
  else
    let (least, c) ← count c
    let (most, c) ←
      if c.head? = some ',' then
        let c := c.nextSkipping
        match c.head? with
        | none => unclosed c
        | some '\x7d' => pure (none, c)
        | some _ => do
          let (most, c) ← count c
          pure (some most, c)
      else pure (some least, c)
    if c.head? ≠ some '\x7d' then unclosed c
    else
      let c := pastLazy c.nextSkipping
      if most.any (· < least) then fail .repetitionCountInvalid (c.since start)
      else return (.repetition (c.since content.span.start) (.counted least most) content, c)

/-- How often an operator of one character repeats. -/
def Times.ofOperator? : Char → Option Times
  | '?' => some atMostOnce
  | '*' => some anyNumber
  | '+' => some atLeastOnce
  | _ => none

/-- A repetition by the operator at the cursor. -/
def repetition (operator : Char) (content : Tree) (c : Cursor) : Except Fault (Tree × Cursor) :=
  match Times.ofOperator? operator with
  | some times =>
    let c := pastLazy c.next
    .ok (.repetition (c.since content.span.start) times content, c)
  | none => countedRepetition content c

/-- A sequence that is being read. -/
structure Sequence where
  start : Nat
  /-- The last item first. -/
  itemsReversed : List Tree

def Sequence.tree (s : Sequence) (c : Cursor) : Tree :=
  .ofSequence (c.since s.start) s.itemsReversed.reverse

mutual

/-- Alternatives up to a closing parenthesis or the end. -/
def readAlternatives : (fuel : Nat) → (start : Nat) → (done : List Tree) → Cursor →
    Except Fault (Tree × Cursor)
  | 0, _, _, c => fail .groupUnclosed c.empty
  | fuel + 1, start, done, c => do
    let (tree, c) ← readSequence fuel ⟨c.offset, []⟩ c
    match c.head? with
    | some '|' => readAlternatives fuel start (tree :: done) c.next
    | _ => return (.ofAlternatives (c.since start) (tree :: done).reverse, c)

/-- The rest of a sequence, up to a bar, a closing parenthesis or the end. -/
def readSequence : (fuel : Nat) → Sequence → Cursor → Except Fault (Tree × Cursor)
  | 0, _, c => fail .groupUnclosed c.empty
  | fuel + 1, s, c => do
    let c := c.skipIgnored
    let push (tree : Tree) : Sequence := { s with itemsReversed := tree :: s.itemsReversed }
    match c.head? with
    | none | some '|' | some ')' => return (s.tree c, c)
    | some '(' =>
      match ← opening c with
      | (.flags changes, after) =>
        let after := { after with ignoresSpace := changes.apply .ignoreWhitespace c.ignoresSpace }
        readSequence fuel (push (.flags (after.since c.offset) changes)) after
      | (.group captures changes, inside) =>
        let inside := { inside with ignoresSpace := changes.apply .ignoreWhitespace c.ignoresSpace }
        let (content, closing) ← readAlternatives fuel inside.offset [] inside
        if closing.isAtEnd then fail .groupUnclosed c.here
        else
          let after := { closing.next with ignoresSpace := c.ignoresSpace }
          readSequence fuel (push (.group (after.since c.offset) captures changes content)) after
    | some '[' =>
      let ((span, negated, content), c) ← brackets fuel c
      readSequence fuel (push (.bracketed span negated content)) c
    | some char =>
      if char = '?' || char = '*' || char = '+' || char = '\x7b' then
        match s.itemsReversed with
        | [] => fail .repetitionMissing c.empty
        | last :: others =>
          if last.isRepeatable then
            let (tree, c) ← repetition char last c
            readSequence fuel { s with itemsReversed := tree :: others } c
          else fail .repetitionMissing c.empty
      else
        let ((span, e), c) ← element char c
        readSequence fuel (push (e.toTree span)) c

end

/-- The tree of a text, if it is a pattern. Every call of the readers takes a character or comes
    right after one that did, so twice the length is more calls than there can be. -/
def Tree.ofText (text : List Char) : Except Fault Tree := do
  let c := Cursor.ofPattern text
  let (tree, c) ← readAlternatives (2 * text.length + 4) 0 [] c
  if c.isAtEnd then
    tree.checkDepth 0
    return tree
  else fail .groupUnopened c.here

end Exposition.Pattern
