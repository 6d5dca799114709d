import Exposition.Pattern.Expr

/-! # Size of an expression

An expression is matched by three automata, and each of them has to fit into a limited space. One
goes over characters and notes where captures start and end; two go over bytes, forwards to look for
a match and backwards to find its start. Repetitions are written out. A step takes a character or a
byte, checks a place, notes it, or goes on in two ways. For bytes a set of characters becomes the
sequences of byte ranges that its characters are encoded with, of which those that end alike share
steps. The space is checked before each part of an expression is laid out, so the last part can
reach beyond the limit.
-/

namespace Exposition.Pattern

/-- A range of bytes, or of the six bits of a character that a byte of its encoding carries. -/
abbrev ByteRange := Nat × Nat

/-- The sequences of digits to base 64 for the numbers from `low` to `high`, with `level` digits
    after the first. A part of a block at either end has sequences of its own; the whole blocks
    between them have one. -/
def digitSequences : (level low high : Nat) → List (List ByteRange)
  | 0, low, high => [[(low, high)]]
  | level + 1, low, high =>
    let block := Nat.pow 64 (level + 1)
    let first := low / block
    let last := high / block
    if first = last then
      (digitSequences level (low % block) (high % block)).map ((first, first) :: ·)
    else
      let startsInside := low % block ≠ 0
      let endsInside := high % block + 1 ≠ block
      let head :=
        if startsInside then
          (digitSequences level (low % block) (block - 1)).map ((first, first) :: ·)
        else []
      let tail :=
        if endsInside then (digitSequences level 0 (high % block)).map ((last, last) :: ·) else []
      let wholeFrom := if startsInside then first + 1 else first
      let wholeTo := if endsInside then last else last + 1
      let middle :=
        if wholeFrom < wholeTo then
          [(wholeFrom, wholeTo - 1) :: List.replicate (level + 1) (0, 63)]
        else []
      head ++ middle ++ tail

/-- The characters whose encodings have `level` bytes after the first, and the mark that this first
    byte bears. -/
structure EncodingClass where
  level : Nat
  first : Nat
  last : Nat
  mark : Nat

/-- All characters by their encodings. Surrogates are none. -/
def encodingClasses : List EncodingClass :=
  [⟨0, 0, 0x7F, 0⟩, ⟨1, 0x80, 0x7FF, 0xC0⟩, ⟨2, 0x800, 0xD7FF, 0xE0⟩, ⟨2, 0xE000, 0xFFFF, 0xE0⟩,
    ⟨3, 0x10000, 0x10FFFF, 0xF0⟩]

/-- The bytes that carry some digits; those after the first bear the mark `0x80`. -/
def markBytes (mark : Nat) : List ByteRange → List ByteRange
  | [] => []
  | (low, high) :: rest =>
    (low + mark, high + mark) :: rest.map fun (low, high) => (low + 0x80, high + 0x80)

/-- The sequences for the characters from `low` to `high`. -/
def byteSequences (low high : Nat) : List (List ByteRange) :=
  encodingClasses.flatMap fun e =>
    let low := max low e.first
    let high := min high e.last
    if low ≤ high then (digitSequences e.level low high).map (markBytes e.mark) else []

/-- The character after another one. Surrogates are none. -/
def nextCode (n : Nat) : Nat := if n = 0xD7FF then 0xE000 else n + 1

/-- Adds a range to others in ascending order, none of which touches the next. It is joined with
    those that it overlaps or touches. -/
def addRange (low high : Nat) : List (Nat × Nat) → List (Nat × Nat)
  | [] => [(low, high)]
  | (low', high') :: rest =>
    if nextCode high < low' then (low, high) :: (low', high') :: rest
    else if nextCode high' < low then (low', high') :: addRange low high rest
    else addRange (min low low') (max high high') rest

/-- The fewest ranges that make up a set. -/
def leastRanges (s : CharSet) : List (Nat × Nat) :=
  s.ranges.foldr (fun (low, high) ranges => if low ≤ high then addRange low high ranges else ranges)
    []

/-- A step that takes a byte of a range and goes on to a step of the same set, or out of the set. -/
structure ByteStep where
  next : Option Nat
  range : ByteRange
  deriving DecidableEq, Repr

/-- The number of slots for steps that later sequences of a set can share. -/
def slotCount : Nat := 1000

/-- The slot of a step, by the FNV-1a hash of its parts. -/
def ByteStep.slot (step : ByteStep) : Nat :=
  let mix (hash part : Nat) : Nat := hash.xor part * 1099511628211 % UInt64.size
  let target := step.next.getD (UInt64.size - 1)
  mix (mix (mix 14695981039346656037 target) step.range.1) step.range.2 % slotCount

/-- An automaton over bytes while a set of characters is laid out. -/
structure SetLayout where
  steps : Nat
  /-- The slots that were filled, the last one first, each with a step and its place. -/
  slots : List (Nat × ByteStep × Nat)

namespace SetLayout

/-- The place of a step. It is a new one unless its slot was last filled with the same step. -/
def place (s : SetLayout) (step : ByteStep) : Nat × SetLayout :=
  let slot := step.slot
  let new := (s.steps, ⟨s.steps + 1, (slot, step, s.steps) :: s.slots⟩)
  match s.slots.find? (·.1 = slot) with
  | some (_, other, place) => if other = step then (place, s) else new
  | none => new

/-- The steps of one sequence, the last one first. -/
def addSequence (next : Option Nat) (s : SetLayout) : List ByteRange → SetLayout
  | [] => s
  | range :: rest =>
    let (place, s) := s.place ⟨next, range⟩
    s.addSequence (some place) rest

/-- The steps of several sequences. One in front of each but the last goes on to those after it. -/
def addSequences (s : SetLayout) : List (List ByteRange) → SetLayout
  | [] => s
  | [sequence] => s.addSequence none sequence
  | sequence :: rest =>
    (SetLayout.addSequence none { s with steps := s.steps + 1 } sequence).addSequences rest

end SetLayout

/-- What an automaton goes over. -/
structure Automaton where
  /-- Does it go over bytes? Otherwise it goes over characters. -/
  overBytes : Bool
  backwards : Bool
  /-- Does it note where captures start and end? -/
  notesCaptures : Bool
  deriving DecidableEq, Repr

/-- How much of an automaton is laid out. -/
structure Extent where
  steps : Nat
  /-- The ranges of its sets of characters. -/
  ranges : Nat
  deriving DecidableEq, Repr

/-- How many bytes an automaton may take up, and how many each of its steps and ranges does. -/
def sizeLimit : Nat := 10485760

def stepBytes : Nat := 32

def rangeBytes : Nat := 8

namespace Extent

def zero : Extent := ⟨0, 0⟩

def isTooLarge (x : Extent) : Bool := sizeLimit < x.steps * stepBytes + x.ranges * rangeBytes

def addSteps (x : Extent) (n : Nat) : Extent := { x with steps := x.steps + n }

/-- A set of characters. A step for a single character has no ranges. -/
def addSet (x : Extent) (a : Automaton) (set : CharSet) : Extent :=
  let ranges := leastRanges set
  if a.overBytes then
    let sequences := ranges.flatMap fun (low, high) => byteSequences low high
    let sequences := if a.backwards then sequences else sequences.map List.reverse
    { x with steps := (SetLayout.addSequences ⟨x.steps, []⟩ sequences).steps }
  else
    match ranges with
    | [(low, high)] => ⟨x.steps + 1, x.ranges + if low = high then 0 else 1⟩
    | _ => ⟨x.steps + 1, x.ranges + ranges.length⟩

end Extent

section Repetition

variable (content : Extent → Option Extent)

/-- A step that goes on in two ways, one of them to some content. In front of nothing there is no
    such step. -/
def layOutFork (x : Extent) : Option Extent := do
  let y ← content (x.addSteps 1)
  return if y = x.addSteps 1 then x else y

/-- Copies of some content. Copies of nothing are nothing, however many they are. -/
def layOutCopies : (count : Nat) → Extent → Option Extent
  | 0, x => some x
  | count + 1, x => do
    let y ← content x
    if y = x then return x else layOutCopies count y

/-- A repetition written out. -/
def layOutTimes : Times → Extent → Option Extent
  | .atMostOnce, x | .anyNumber, x => layOutFork content x
  | .atLeastOnce, x => do
    let y ← content x
    return if y = x then x else y.addSteps 1
  | .counted least none, x => do
    let y ← layOutCopies content least x
    layOutFork content y
  | .counted least (some most), x => do
    let y ← layOutCopies content least x
    layOutCopies (layOutFork content) (most - least) y

end Repetition

namespace Expr

/-- The automaton that has an expression behind what is laid out of it, if there is space. -/
def layOut (a : Automaton) (e : Expr) (x : Extent) : Option Extent :=
  if x.isTooLarge then none
  else
    match e with
    | empty => some x
    | char set => some (x.addSet a set)
    | byte set => some (x.addSteps (2 * (leastRanges set).length - 1))
    | look _ => some (x.addSteps 1)
    | group captures content =>
      if captures && a.notesCaptures then do
        let y ← content.layOut a (x.addSteps 1)
        return y.addSteps 1
      else content.layOut a x
    | both left right => do
      let (first, second) := if a.backwards then (right.layOut a, left.layOut a)
        else (left.layOut a, right.layOut a)
      second (← first x)
    | either left right => do
      let y ← left.layOut a (x.addSteps 1)
      right.layOut a y
    | repeated times content => layOutTimes (content.layOut a) times x

/-- Does some part match single bytes? -/
def hasBytes : Expr → Bool
  | empty | char _ | look _ => false
  | byte _ => true
  | group _ content | repeated _ content => content.hasBytes
  | both left right | either left right => left.hasBytes || right.hasBytes

/-- Does the expression match nothing but places? -/
def isPlace : Expr → Bool
  | empty | look _ => true
  | char _ | byte _ => false
  | group _ content | repeated _ content => content.isPlace
  | both left right | either left right => left.isPlace && right.isPlace

/-- Can a match start only where the text does? -/
def isAnchored : Expr → Bool
  | look .startText => true
  | empty | char _ | byte _ | look _ => false
  | group _ content => content.isAnchored
  | repeated times content => times.least ≠ 0 && content.isAnchored
  | both left right => left.isAnchored || (left.isPlace && right.isAnchored)
  | either left right => left.isAnchored && right.isAnchored

/-- Is there space for all three automata? The whole match is a capture, and unless it can start
    only where the text does, the automaton that looks for it passes over any characters first. -/
def fits (e : Expr) : Bool :=
  let whole := group true e
  let before := if e.isAnchored then empty else repeated .anyNumber (char .all)
  let forwards : Automaton := ⟨true, false, false⟩
  (whole.layOut ⟨e.hasBytes, false, true⟩ .zero).isSome &&
    ((before.layOut forwards .zero).bind (whole.layOut forwards)).isSome &&
    (whole.layOut ⟨true, true, false⟩ .zero).isSome

end Expr

end Exposition.Pattern
