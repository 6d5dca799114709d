import Exposition.Pattern.Expr

/-! # Matching

A text is matched as the bytes of its UTF-8. Each byte knows if a character starts at it, so an
expression moves by whole characters, and only single bytes can lead into one. Matching goes
through sets of places: from the places that can be reached before an expression it computes those
that can be reached after it.
-/

namespace Exposition.Pattern

/-- A byte of a text: the first one of a character, or a later one. -/
inductive Cell where
  | first (c : Char)
  | later (byte : UInt8)
  deriving DecidableEq, Repr

/-- The bytes of a character. -/
def Cell.ofChar (c : Char) : List Cell := .first c :: (String.utf8EncodeChar c).tail.map .later

def Cell.byte : Cell → UInt8
  | first c => (String.utf8EncodeChar c).headD 0
  | later byte => byte

def Cell.char? : Cell → Option Char
  | first c => some c
  | later _ => none

/-- A text as bytes. -/
abbrev Subject := Array Cell

def Subject.ofText (text : String) : Subject := (text.toList.flatMap Cell.ofChar).toArray

namespace Subject

variable (s : Subject)

/-- The character that starts at a place. -/
def charAt? (i : Nat) : Option Char := s[i]?.bind Cell.char?

/-- The character before a place: the last one that starts there. -/
def charBefore? : Nat → Option Char
  | 0 => none
  | i + 1 =>
    match s[i]? with
    | some (.first c) => some c
    | some (.later _) => charBefore? i
    | none => none

/-- Do the characters on both sides of a place differ in being in a word? -/
def isBoundary (word : CharSet) (i : Nat) : Bool :=
  (s.charBefore? i).any word.contains != (s.charAt? i).any word.contains

/-- Has a place some property? -/
def satisfies (i : Nat) : Look → Bool
  | .startText => i = 0
  | .endText => i = s.size
  | .startLine => i = 0 || s.charBefore? i = some '\n'
  | .endLine => i = s.size || s.charAt? i = some '\n'
  | .wordBoundary word => s.isBoundary word i
  | .notWordBoundary word => !s.isBoundary word i

/-- The place after a character of a set. -/
def afterChar? (set : CharSet) (i : Nat) : Option Nat :=
  match s.charAt? i with
  | some c => if set.contains c then some (i + c.utf8Size) else none
  | none => none

/-- The place after a byte of a set. -/
def afterByte? (set : CharSet) (i : Nat) : Option Nat :=
  match s[i]? with
  | some cell => if set.containsCode cell.byte.toNat then some (i + 1) else none
  | none => none

end Subject

/-- A finite set of places, each once, in no particular order. -/
abbrev Places := List Nat

namespace Places

/-- The places of both, those of the first in front. -/
def union (p q : Places) : Places := q.foldl (fun p i => if p.contains i then p else p ++ [i]) p

/-- Each place once. -/
def ofList (p : List Nat) : Places := union [] p

/-- Are all places of one set in another? -/
def within (p q : Places) : Bool := p.all q.contains

/-- The places reached by at most `fuel` steps, none included. It ends early once a step reaches
    nothing new. -/
def closure (step : Places → Places) : (fuel : Nat) → Places → Places
  | 0, p => p
  | fuel + 1, p =>
    let q := p.union (step p)
    if q.length = p.length then p else closure step fuel q

/-- The places reached by exactly `count` steps. It ends early once a step changes nothing. -/
def iterate (step : Places → Places) : (count : Nat) → Places → Places
  | 0, p => p
  | count + 1, p =>
    let q := step p
    if q.within p && p.within q then p else iterate step count q

end Places

/-- The places that can be reached through an expression from some places. From any place at most
    as many further places can be reached as the text has bytes, so this bounds a repetition
    without limit. -/
def Expr.reach (s : Subject) : Expr → Places → Places
  | .empty, p => p
  | .char set, p => .ofList (p.filterMap (s.afterChar? set))
  | .byte set, p => .ofList (p.filterMap (s.afterByte? set))
  | .look property, p => p.filter (s.satisfies · property)
  | .group _ content, p => content.reach s p
  | .both left right, p => right.reach s (left.reach s p)
  | .either left right, p => (left.reach s p).union (right.reach s p)
  | .repeated times content, p =>
    let p := Places.iterate (content.reach s) times.least p
    Places.closure (content.reach s) ((times.most.map (· - times.least)).getD (s.size + 1)) p

/-- The places where a character starts, and the end. -/
def Subject.starts (s : Subject) : Places :=
  (List.range (s.size + 1)).filter fun i => i = s.size || (s.charAt? i).isSome

/-- Does the expression match some part of the text? -/
def Expr.isMatch (e : Expr) (text : String) : Bool :=
  let s := Subject.ofText text
  !(e.reach s s.starts).isEmpty

/-- Does the expression match the text from its start to its end? -/
def Expr.matchesWhole (e : Expr) (text : String) : Bool :=
  let s := Subject.ofText text
  (e.reach s [0]).contains s.size

end Exposition.Pattern
