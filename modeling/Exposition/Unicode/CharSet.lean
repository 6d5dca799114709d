/-! # Sets of characters

A set of characters is the union of some inclusive ranges of code points, in no particular order.
Tables of Unicode properties are written as text: hexadecimal ranges with blanks or line ends
between them.
-/

namespace Exposition

/-- The characters in any of the ranges, ends included. -/
structure CharSet where
  ranges : List (Nat × Nat)
  deriving Repr, DecidableEq

namespace CharSet

def empty : CharSet := ⟨[]⟩

def range (low high : Nat) : CharSet := ⟨[(low, high)]⟩

/-- All characters: every code point but the surrogates. -/
def all : CharSet := ⟨[(0, 0xD7FF), (0xE000, 0x10FFFF)]⟩

/-- All bytes, where a set is about the bytes of a text. -/
def bytes : CharSet := range 0 0xFF

def containsCode (s : CharSet) (n : Nat) : Bool :=
  s.ranges.any fun (low, high) => low ≤ n && n ≤ high

def contains (s : CharSet) (c : Char) : Bool := s.containsCode c.toNat

/-- Has the set no element? A range whose ends are the wrong way round has none. -/
def isEmpty (s : CharSet) : Bool := s.ranges.all fun (low, high) => high < low

def union (s t : CharSet) : CharSet := ⟨s.ranges ++ t.ranges⟩

def intersection (s t : CharSet) : CharSet :=
  ⟨s.ranges.flatMap fun (a, b) => t.ranges.filterMap fun (c, d) =>
    if max a c ≤ min b d then some (max a c, min b d) else none⟩

/-- What is left of some ranges without the numbers from `low` to `high`. -/
def removeRange (ranges : List (Nat × Nat)) (low high : Nat) : List (Nat × Nat) :=
  ranges.flatMap fun (a, b) =>
    if b < low || high < a then [(a, b)]
    else
      (if a < low then [(a, low - 1)] else []) ++ (if high < b then [(high + 1, b)] else [])

def difference (s t : CharSet) : CharSet :=
  ⟨t.ranges.foldl (fun left (low, high) => removeRange left low high) s.ranges⟩

def symmetricDifference (s t : CharSet) : CharSet := (s.difference t).union (t.difference s)

/-- The number that hexadecimal digits denote. -/
def ofHex (digits : String) : Nat :=
  digits.foldl (fun n c =>
    16 * n + (if '0' ≤ c && c ≤ '9' then c.toNat - '0'.toNat else c.toNat - 'A'.toNat + 10)) 0

/-- A range `low-high` of a table, or a single code point. -/
def rangeOfText (text : String) : Nat × Nat :=
  match text.splitOn "-" with
  | [low, high] => (ofHex low, ofHex high)
  | _ => (ofHex text, ofHex text)

/-- The words of a text, between blanks and line ends. -/
def words (text : String) : List String :=
  ((text.toList.splitOnP fun c => c == ' ' || c == '\n').filter (· ≠ [])).map String.ofList

/-- The set that a table lists. -/
def ofTable (table : String) : CharSet := ⟨(words table).map rangeOfText⟩

end CharSet

end Exposition
